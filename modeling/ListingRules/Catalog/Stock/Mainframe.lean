import ListingRules.Catalog.Definition

namespace ListingRules.Stock

def zVm1 : ServerTypeDefinition :=
  .ofStrings "IBM z/VM (CMS) 1"
    [("name", .name), ("ext", .extension), ("format", .text), ("lrecl", .number),
     ("records", .number), ("blocks", .number), ("date", .generalDate), ("time", .generalTime)]
    ""
    r#"# directories
* word(<name>), all_to(" DIR"), assign(<is_dir>, true), white_spaces(),
  word(), white_spaces(), word(), white_spaces(), word(), white_spaces(),
  year(<date>), all(1), month(<date>), all(1), day(<date>),
  white_spaces(), time(<time>), white_spaces(), word();

# files
* word(<name>), white_spaces(), add_string_to_column(<name>, "."),
  add_string_to_column(<name>, next_word), word(), white_spaces(),
  word(<format>), white_spaces(), number(<lrecl>), white_spaces(),
  number(<records>), white_spaces(), number(<blocks>), white_spaces(),
  year(<date>), all(1), month(<date>), all(1), day(<date>),
  white_spaces(), time(<time>), white_spaces(), word();

# blank lines
* skip_white_spaces();
"#

def zVm2 : ServerTypeDefinition :=
  .ofStrings "IBM z/VM (CMS) 2"
    [("name", .name), ("ext", .extension), ("format", .text), ("lrecl", .number),
     ("records", .number), ("blocks", .number), ("date", .generalDate), ("time", .generalTime),
     ("user", .text)]
    ""
    r#"# directories
* word(<name>), all_to(" DISK"), assign(<is_dir>, true), white_spaces(),
  word(<format>), white_spaces(), number(<lrecl>), white_spaces(),
  number(<records>), white_spaces(), number(<blocks>), white_spaces(),
  month(<date>), all(1), day(<date>), all(1), year(<date>),
  white_spaces(), time(<time>), white_spaces(), word(<user>);

# files
* word(<name>), white_spaces(), add_string_to_column(<name>, "."),
  add_string_to_column(<name>, next_word), word(), white_spaces(),
  word(<format>), white_spaces(), number(<lrecl>), white_spaces(),
  number(<records>), white_spaces(), number(<blocks>), white_spaces(),
  month(<date>), all(1), day(<date>), all(1), year(<date>),
  white_spaces(), time(<time>), white_spaces(), word(<user>);

# blank lines
* skip_white_spaces();
"#

def zVm3 : ServerTypeDefinition :=
  .ofStrings "IBM z/VM (CMS) 3"
    [("name", .name), ("ext", .extension), ("fm", .text), ("format", .text), ("lrecl", .number),
     ("records", .number), ("blocks", .number), ("date", .generalDate), ("time", .generalTime)]
    r#"syst_contains("z/VM")"#
    r#"# directories
* word(<name>), white_spaces(), word(<fm>), all_to(" DIR"),
  assign(<is_dir>, true), white_spaces(), word(), white_spaces(),
  word(), white_spaces(), word(), white_spaces(), month(<date>),
  all(1), day(<date>), all(1), year(<date>), white_spaces(),
  time(<time>);

# files
* word(<name>), white_spaces(), add_string_to_column(<name>, "."),
  add_string_to_column(<name>, next_word), word(), white_spaces(),
  word(<fm>), white_spaces(), word(<format>), white_spaces(),
  number(<lrecl>), white_spaces(), number(<records>), white_spaces(),
  number(<blocks>), white_spaces(), month(<date>), all(1),
  day(<date>), all(1), year(<date>), white_spaces(), time(<time>);

# "Filename FileType Fm ..." header
* if(first_nonempty_line), skip_white_spaces(), if (next_word eq "Filename"), word(),
  skip_white_spaces(), if (next_word eq "FileType"), word(), skip_white_spaces(),
  if (next_word eq "Fm"), rest_of_line();

# blank lines
* skip_white_spaces();
"#

def mvs1 : ServerTypeDefinition :=
  .ofStrings "MVS1"
    [("name", .name), ("dsorg", .text), ("date", .generalDate), ("volume", .text),
     ("unit", .text), ("extents", .number), ("used", .number), ("recfm", .text),
     ("lrecl", .number), ("blksz", .number)]
    r#"syst_contains(" MVS ")"#
    r#"# data sets
* word(<volume>), white_spaces(), word(<unit>), white_spaces(), year(<date>),
  all(1), month(<date>), all(1), day(<date>), white_spaces(), number(<extents>),
  white_spaces(), number(<used>), white_spaces(), word(<recfm>), white_spaces(),
  number(<lrecl>), white_spaces(), number(<blksz>), white_spaces(),
  word(<dsorg>), assign(<is_dir>, <dsorg> eq "PO"), white_spaces(), word(<name>);

# data sets with "**NONE**" date
* word(<volume>), white_spaces(), word(<unit>), white_spaces(),
  if(next_word eq "**NONE**"), word(), white_spaces(), number(<extents>),
  white_spaces(), number(<used>), white_spaces(), word(<recfm>),
  white_spaces(), number(<lrecl>), white_spaces(), number(<blksz>),
  white_spaces(), word(<dsorg>), assign(<is_dir>, <dsorg> eq "PO"),
  white_spaces(), word(<name>);

# "Migrated" data sets
* if(next_word eq "Migrated"), word(<unit>), white_spaces(),
  word(<name>);

# "MIGRAT" lines
* if(next_word eq "MIGRAT"), all(<unit>, 55), white_spaces(),
  cut_white_spaces_end(<unit>), word(<name>);

# "ARCIVE" lines
* if(next_word eq "ARCIVE"), all(<unit>, 55), white_spaces(),
  cut_white_spaces_end(<unit>), word(<name>);

# data sets with joined numbers from "Ext" and "Used" columns
* word(<volume>), white_spaces(), word(<unit>), white_spaces(), year(<date>),
  all(1), month(<date>), all(1), day(<date>), white_spaces(), word(),
  white_spaces(), word(<recfm>), white_spaces(), number(<lrecl>), white_spaces(),
  number(<blksz>), white_spaces(), word(<dsorg>), assign(<is_dir>, <dsorg> eq "PO"),
  white_spaces(), word(<name>);

# data sets with "**NONE**" date and with joined numbers from "Ext" and "Used" columns
* word(<volume>), white_spaces(), word(<unit>), white_spaces(),
  if(next_word eq "**NONE**"), word(), white_spaces(), word(), white_spaces(),
  word(<recfm>), white_spaces(), number(<lrecl>), white_spaces(), number(<blksz>),
  white_spaces(), word(<dsorg>), assign(<is_dir>, <dsorg> eq "PO"),
  white_spaces(), word(<name>);

# "Pseudo Directory" entries
* if(next_word eq "Pseudo"), word(), white_spaces(1), if(next_word eq "Directory"),
  assign(<is_dir>, true), word(), white_spaces(), word(<name>);

# "Error determining attributes"
* if(next_word eq "Error"), word(), white_spaces(1), if(next_word eq "determining"),
  word(), white_spaces(1), if(next_word eq "attributes"), word(), white_spaces(),
  assign(<unit>, "Error determining attributes"), word(<name>);

# Volume + "Error determining attributes"
* word(<volume>), white_spaces(), if(next_word eq "Error"), word(),
  white_spaces(1), if(next_word eq "determining"), word(), white_spaces(1),
  if(next_word eq "attributes"), word(), white_spaces(),
  assign(<unit>, "Error determining attributes"), word(<name>);

# Volume + "Not Mounted"
* word(<volume>), white_spaces(), if(next_word eq "Not"), word(),
  white_spaces(1), if(next_word eq "Mounted"), word(), white_spaces(),
  assign(<unit>, "Not Mounted"), word(<name>);

# Volume + Unit + "<" + any error message + " > " + Dsname
* all(<volume>, 6), white_spaces(1), all(<unit>, 6), white_spaces(),
  if(next_word == "<"), all_to(<name>, " > "), cut_white_spaces(<volume>),
  cut_white_spaces(<unit>), add_string_to_column(<unit>, " "),
  add_string_to_column(<unit>, <name>), cut_white_spaces_end(<unit>),
  skip_white_spaces(), word(<name>);

# optional columns: Volume + Unit + Recfm + Dsorg; Dsname is necessary
* all(<volume>, 6), white_spaces(1), all(<unit>, 6), white_spaces(20),
  all(<recfm>, 5), white_spaces(12), all(<dsorg>, 5), white_spaces(),
  word(<name>), cut_white_spaces(<volume>), cut_white_spaces(<unit>),
  cut_white_spaces(<recfm>), cut_white_spaces(<dsorg>);

# "Volume Unit Referred ..." header
* if(first_nonempty_line), skip_white_spaces(), if (next_word eq "Volume"), word(),
  skip_white_spaces(), if (next_word eq "Unit"), word(), skip_white_spaces(),
  if (next_word eq "Referred"), rest_of_line();

# blank lines
* skip_white_spaces();
"#

def mvs2 : ServerTypeDefinition :=
  .ofStrings "MVS2"
    [("name", .name), ("dsorg", .text), ("date", .generalDate), ("volume", .text),
     ("unit", .text), ("extents", .number), ("used", .number), ("recfm", .text),
     ("lrecl", .number), ("blksz", .number)]
    r#"syst_contains(" MVS ")"#
    r#"# data sets
* word(<volume>), white_spaces(), word(<unit>), white_spaces(), month(<date>),
  all(1), day(<date>), all(1), year(<date>), white_spaces(), number(<extents>),
  white_spaces(), number(<used>), white_spaces(), word(<recfm>), white_spaces(),
  number(<lrecl>), white_spaces(), number(<blksz>), white_spaces(),
  word(<dsorg>), assign(<is_dir>, <dsorg> eq "PO"), white_spaces(), word(<name>);

# data sets with "**NONE**" date
* word(<volume>), white_spaces(), word(<unit>), white_spaces(),
  if(next_word eq "**NONE**"), word(), white_spaces(), number(<extents>),
  white_spaces(), number(<used>), white_spaces(), word(<recfm>),
  white_spaces(), number(<lrecl>), white_spaces(), number(<blksz>),
  white_spaces(), word(<dsorg>), assign(<is_dir>, <dsorg> eq "PO"),
  white_spaces(), word(<name>);

# "Migrated" data sets
* if(next_word eq "Migrated"), word(<unit>), white_spaces(),
  word(<name>);

# "MIGRAT" lines
* if(next_word eq "MIGRAT"), all(<unit>, 53), white_spaces(),
  cut_white_spaces_end(<unit>), word(<name>);

# "ARCIVE" lines
* if(next_word eq "ARCIVE"), all(<unit>, 53), white_spaces(),
  cut_white_spaces_end(<unit>), word(<name>);

# "Pseudo Directory" entries
* if(next_word eq "Pseudo"), word(), white_spaces(1), if(next_word eq "Directory"),
  assign(<is_dir>, true), word(), white_spaces(), word(<name>);

# "Error determining attributes"
* if(next_word eq "Error"), word(), white_spaces(1), if(next_word eq "determining"),
  word(), white_spaces(1), if(next_word eq "attributes"), word(), white_spaces(),
  assign(<unit>, "Error determining attributes"), word(<name>);

# Volume + "Error determining attributes"
* word(<volume>), white_spaces(), if(next_word eq "Error"), word(),
  white_spaces(1), if(next_word eq "determining"), word(), white_spaces(1),
  if(next_word eq "attributes"), word(), white_spaces(),
  assign(<unit>, "Error determining attributes"), word(<name>);

# Volume + "Not Mounted"
* word(<volume>), white_spaces(), if(next_word eq "Not"), word(),
  white_spaces(1), if(next_word eq "Mounted"), word(), white_spaces(),
  assign(<unit>, "Not Mounted"), word(<name>);

# Volume + Unit + "<" + any error message + " > " + Dsname
* all(<volume>, 6), white_spaces(1), all(<unit>, 4), white_spaces(),
  if(next_word == "<"), all_to(<name>, " > "), cut_white_spaces(<volume>),
  cut_white_spaces(<unit>), add_string_to_column(<unit>, " "),
  add_string_to_column(<unit>, <name>), cut_white_spaces_end(<unit>),
  skip_white_spaces(), word(<name>);

# optional columns: Volume + Unit + Recfm + Dsorg; Dsname is necessary
* all(<volume>, 6), white_spaces(1), all(<unit>, 4), white_spaces(19),
  all(<recfm>, 5), white_spaces(13), all(<dsorg>, 5), white_spaces(),
  word(<name>), cut_white_spaces(<volume>), cut_white_spaces(<unit>),
  cut_white_spaces(<recfm>), cut_white_spaces(<dsorg>);

# "Volume Unit Referred ..." header
* if(first_nonempty_line), skip_white_spaces(), if (next_word eq "Volume"), word(),
  skip_white_spaces(), if (next_word eq "Unit"), word(), skip_white_spaces(),
  if (next_word eq "Referred"), rest_of_line();

# blank lines
* skip_white_spaces();
"#

def mvsPo1 : ServerTypeDefinition :=
  .ofStrings "MVS PO 1"
    [("name", .name), ("size", .number), ("vvmm", .text), ("created", .generalDate),
     ("ch_date", .generalDate), ("ch_time", .generalTime), ("init", .number), ("mod", .number),
     ("id", .text)]
    r#"syst_contains(" MVS ")"#
    r#"# members
* word(<name>), white_spaces(), word(<vvmm>), white_spaces(), year(<created>),
  all(1), month(<created>), all(1), day(<created>), white_spaces(),
  year(<ch_date>), all(1), month(<ch_date>), all(1), day(<ch_date>),
  white_spaces(), time(<ch_time>), white_spaces(), number(<size>),
  white_spaces(), number(<init>), white_spaces(), number(<mod>),
  white_spaces(), word(<id>), skip_white_spaces();

# members without any other info
* word(<name>), skip_white_spaces();

# "Name VV.MM Created ..." header
* if(first_nonempty_line), skip_white_spaces(), if (next_word eq "Name"), word(),
  skip_white_spaces(), if (next_word eq "VV.MM"), word(), skip_white_spaces(),
  if (next_word eq "Created"), rest_of_line();

# blank lines
* skip_white_spaces();
"#

def mvsPo2 : ServerTypeDefinition :=
  .ofStrings "MVS PO 2"
    [("name", .name), ("size", .number), ("vvmm", .text), ("created", .generalDate),
     ("ch_date", .generalDate), ("ch_time", .generalTime), ("init", .number), ("mod", .number),
     ("id", .text)]
    r#"syst_contains(" MVS ")"#
    r#"# members
* word(<name>), white_spaces(), word(<vvmm>), white_spaces(),
  month(<created>), all(1), day(<created>), all(1), year(<created>),
  white_spaces(), month(<ch_date>), all(1), day(<ch_date>), all(1),
  year(<ch_date>), white_spaces(), time(<ch_time>), white_spaces(),
  number(<size>), white_spaces(), number(<init>), white_spaces(),
  number(<mod>), white_spaces(), word(<id>), skip_white_spaces();

# members without any other info
* word(<name>), skip_white_spaces();

# "Name VV.MM Created ..." header
* if(first_nonempty_line), skip_white_spaces(), if (next_word eq "Name"), word(),
  skip_white_spaces(), if (next_word eq "VV.MM"), word(), skip_white_spaces(),
  if (next_word eq "Created"), rest_of_line();

# blank lines
* skip_white_spaces();
"#

def mvsPo3 : ServerTypeDefinition :=
  .ofStrings "MVS PO 3"
    [("name", .name), ("size", .number), ("vvmm", .text), ("ch_date", .generalDate),
     ("ch_time", .generalTime), ("init", .number), ("mod", .number), ("id", .text)]
    r#"syst_contains(" MVS ")"#
    r#"# members
* word(<name>), white_spaces(), word(<vvmm>), white_spaces(),
  year(<ch_date>), all(1), month(<ch_date>), all(1), day(<ch_date>),
  white_spaces(), time(<ch_time>), white_spaces(), number(<size>),
  white_spaces(), number(<init>), white_spaces(), number(<mod>),
  white_spaces(), word(<id>), skip_white_spaces();

# members without any other info
* word(<name>), skip_white_spaces();

# "NAME VV.MM CHANGED ..." header
* if(first_nonempty_line), skip_white_spaces(), if (next_word eq "NAME"), word(),
  skip_white_spaces(), if (next_word eq "VV.MM"), word(), skip_white_spaces(),
  if (next_word eq "CHANGED"), rest_of_line();

# blank lines
* skip_white_spaces();
"#

def mvsPo4 : ServerTypeDefinition :=
  .ofStrings "MVS PO 4"
    [("name", .name), ("size", .text), ("ttr", .text), ("alias", .text), ("ac", .text),
     ("attr", .text), ("amode", .text), ("rmode", .text)]
    r#"syst_contains(" MVS ")"#
    r#"# data sets
* word(<name>), white_spaces(), word(<size>), white_spaces(), word(<ttr>),
  white_spaces(1), all(<alias>, 8), white_spaces(1), all(<ac>, 2), white_spaces(1),
  all(<attr>, 30), cut_white_spaces_end(<alias>), cut_white_spaces_end(<ac>),
  cut_white_spaces_end(<attr>), white_spaces(), word(<amode>), white_spaces(),
  word(<rmode>), skip_white_spaces();

# "Name Size TTR ..." header
* if(first_nonempty_line), skip_white_spaces(), if (next_word eq "Name"), word(),
  skip_white_spaces(), if (next_word eq "Size"), word(), skip_white_spaces(),
  if (next_word eq "TTR"), rest_of_line();

# blank lines
* skip_white_spaces();
"#

def iSeriesEnglish : ServerTypeDefinition :=
  .ofStrings "IBM iSeries/i5, AS/400 (EN)"
    [("name", .name), ("ext", .extension), ("size", .number), ("win_type", .fileType),
     ("date", .generalDate), ("time", .generalTime), ("type", .text), ("user", .text)]
    r#"syst_contains(" OS/400 ")"#
    r#"# files
* word(<user>), skip_white_spaces(), positive_number(<size>), skip_white_spaces(),
  month(<date>), all(1), day(<date>), all(1), year(<date>), white_spaces(),
  time(<time>), skip_white_spaces(), word(<type>), skip_white_spaces(),
  if(rest_of_line not_end_with "/"), rest_of_line(<name>);

# files without size+date+time
* word(<user>), skip_white_spaces(), word(<type>), skip_white_spaces(),
  if(rest_of_line not_end_with "/"), if(" " not_in rest_of_line),
  rest_of_line(<name>);

# files without user+type+size+date+time
* white_spaces(40), skip_white_spaces(), if(rest_of_line not_end_with "/"),
  rest_of_line(<name>);

# directories
* word(<user>), skip_white_spaces(), positive_number(<size>), skip_white_spaces(),
  month(<date>), all(1), day(<date>), all(1), year(<date>), white_spaces(),
  time(<time>), skip_white_spaces(), word(<type>), skip_white_spaces(),
  if(rest_of_line end_with "/"), assign(<is_dir>, true), rest_of_line(<name>),
  cut_end_of_string(<name>, 1);

# directories without user
* skip_white_spaces(), positive_number(<size>), skip_white_spaces(),
  month(<date>), all(1), day(<date>), all(1), year(<date>), white_spaces(),
  time(<time>), skip_white_spaces(), word(<type>), skip_white_spaces(),
  if(rest_of_line end_with "/"), assign(<is_dir>, true), rest_of_line(<name>),
  cut_end_of_string(<name>, 1);

# directories without user+type+size+date+time
* white_spaces(40), skip_white_spaces(), if(rest_of_line end_with "/"),
  assign(<is_dir>, true), rest_of_line(<name>), cut_end_of_string(<name>, 1);

# file without name (only on the first row)
* if(first_nonempty_line), word(), skip_white_spaces(), positive_number(<size>),
  skip_white_spaces(), month(<date>), all(1), day(<date>), all(1), year(<date>),
  white_spaces(), time(<time>), skip_white_spaces(), if(next_word eq "*FILE"),
  word(), skip_white_spaces();

# blank lines
* skip_white_spaces();
"#

def iSeriesCzech : ServerTypeDefinition :=
  .ofStrings "IBM iSeries/i5, AS/400 (CZ)"
    [("name", .name), ("ext", .extension), ("size", .number), ("win_type", .fileType),
     ("date", .generalDate), ("time", .generalTime), ("type", .text), ("user", .text)]
    r#"syst_contains(" OS/400 ")"#
    r#"# files
* word(<user>), skip_white_spaces(), positive_number(<size>), skip_white_spaces(),
  day(<date>), all(1), month(<date>), all(1), year(<date>), white_spaces(),
  time(<time>), skip_white_spaces(), word(<type>), skip_white_spaces(),
  if(rest_of_line not_end_with "/"), rest_of_line(<name>);

# files without size+date+time
* word(<user>), skip_white_spaces(), word(<type>), skip_white_spaces(),
  if(rest_of_line not_end_with "/"), if(" " not_in rest_of_line),
  rest_of_line(<name>);

# files without user+type+size+date+time
* white_spaces(40), skip_white_spaces(), if(rest_of_line not_end_with "/"),
  rest_of_line(<name>);

# directories
* word(<user>), skip_white_spaces(), positive_number(<size>), skip_white_spaces(),
  day(<date>), all(1), month(<date>), all(1), year(<date>), white_spaces(),
  time(<time>), skip_white_spaces(), word(<type>), skip_white_spaces(),
  if(rest_of_line end_with "/"), assign(<is_dir>, true), rest_of_line(<name>),
  cut_end_of_string(<name>, 1);

# directories without user
* skip_white_spaces(), positive_number(<size>), skip_white_spaces(),
  day(<date>), all(1), month(<date>), all(1), year(<date>), white_spaces(),
  time(<time>), skip_white_spaces(), word(<type>), skip_white_spaces(),
  if(rest_of_line end_with "/"), assign(<is_dir>, true), rest_of_line(<name>),
  cut_end_of_string(<name>, 1);

# directories without user+type+size+date+time
* white_spaces(40), skip_white_spaces(), if(rest_of_line end_with "/"),
  assign(<is_dir>, true), rest_of_line(<name>), cut_end_of_string(<name>, 1);

# file without name (only on the first row)
* if(first_nonempty_line), word(), skip_white_spaces(), positive_number(<size>),
  skip_white_spaces(), day(<date>), all(1), month(<date>), all(1), year(<date>),
  white_spaces(), time(<time>), skip_white_spaces(), if(next_word eq "*FILE"),
  word(), skip_white_spaces();

# blank lines
* skip_white_spaces();
"#

end ListingRules.Stock

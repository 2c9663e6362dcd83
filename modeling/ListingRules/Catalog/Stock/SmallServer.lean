import ListingRules.Catalog.Definition

namespace ListingRules.Stock

def netware : ServerTypeDefinition :=
  .ofStrings "Netware"
    [("name", .name), ("ext", .extension), ("size", .size), ("type", .fileType), ("date", .date),
     ("time", .time), ("rights", .text), ("user", .text)]
    r#"not syst_contains("z/VM ") and not syst_contains("OS/2 ")
and not syst_contains(" MACOS ") and not syst_contains("Windows_NT")
"#
    r#"# NetWare
* assign(<is_dir>, next_char=="d"), all(1), white_spaces(1), all_to("["),
  all_up_to(<rights>, "]"), white_spaces(1), all(<user>, 28),
  cut_white_spaces_end(<user>), white_spaces(), positive_number(<size>),
  white_spaces(), month_3(<date>), white_spaces(), day(<date>),
  white_spaces(), year_or_time(<date>, <time>), white_spaces(1),
  rest_of_line(<name>);

# Hellsoft
* assign(<is_dir>, next_char=="d"), all_to("["), all_up_to(<rights>, "]"),
  white_spaces(), word(), white_spaces(), word(<user>),
  white_spaces(), positive_number(<size>), white_spaces(), month_3(<date>),
  white_spaces(), day(<date>), white_spaces(),
  year_or_time(<date>, <time>), white_spaces(1), rest_of_line(<name>);

# "total 123" or "--- listing ---" header
* if(first_nonempty_line), skip_white_spaces(), word(), skip_white_spaces();
* if(first_nonempty_line), skip_white_spaces(), word(), skip_white_spaces(),
  word(), skip_white_spaces();
* if(first_nonempty_line), skip_white_spaces(), word(), skip_white_spaces(),
  word(), skip_white_spaces(), word(), skip_white_spaces();

* skip_white_spaces();
"#

def netPresenz : ServerTypeDefinition :=
  .ofStrings "NetPresenz"
    [("name", .name), ("ext", .extension), ("size", .size), ("type", .fileType), ("date", .date),
     ("time", .time), ("rights", .text)]
    r#"welcome_contains(" NetPresenz ") and syst_contains(" MACOS ")"#
    r#"# files
* if(next_char!="d"), all(<rights>, 10), white_spaces(), word(),
  white_spaces(), word(), white_spaces(), positive_number(<size>),
  white_spaces(), month_3(<date>), white_spaces(),
  day(<date>), white_spaces(), year_or_time(<date>, <time>),
  white_spaces(1), rest_of_line(<name>);

# directories
* if(next_char=="d"), assign(<is_dir>, true), all(<rights>, 10), white_spaces(),
  word(), white_spaces(), positive_number(<size>), white_spaces(),
  month_3(<date>), white_spaces(), day(<date>), white_spaces(),
  year_or_time(<date>, <time>), white_spaces(1), rest_of_line(<name>);

# blank lines
* skip_white_spaces();
"#

def microsoftIis : ServerTypeDefinition :=
  .ofStrings "Microsoft IIS"
    [("name", .name), ("ext", .extension), ("size", .size), ("type", .fileType), ("date", .date),
     ("time", .time)]
    ""
    r#"# files
* month(<date>), all(1), day(<date>), all(1), year(<date>), white_spaces(),
  time(<time>), white_spaces(), positive_number(<size>), white_spaces(),
  rest_of_line(<name>);

# directories
* month(<date>), all(1), day(<date>), all(1), year(<date>), white_spaces(),
  time(<time>), white_spaces(), if(next_word eq "<dir>"), all(5),
  assign(<is_dir>, true), white_spaces(), rest_of_line(<name>);

# nameless files and directories
* month(<date>), all(1), day(<date>), all(1), year(<date>), white_spaces(),
  time(<time>), white_spaces(), positive_number(<size>), white_spaces();
* month(<date>), all(1), day(<date>), all(1), year(<date>), white_spaces(),
  time(<time>), white_spaces(), if(next_word eq "<dir>"), all(5),
  assign(<is_dir>, true), white_spaces();

* skip_white_spaces();
"#

def os2 : ServerTypeDefinition :=
  .ofStrings "OS/2"
    [("name", .name), ("ext", .extension), ("size", .size), ("type", .fileType), ("date", .date),
     ("time", .time), ("attrs", .text)]
    ""
    r#"* skip_white_spaces(), positive_number(<size>), white_spaces(1), all(<attrs>, 9),
  cut_white_spaces(<attrs>), white_spaces(1),
  assign(<is_dir>, next_word eq "DIR"), all(3), white_spaces(),
  month(<date>), all(1), day(<date>), all(1), year(<date>),
  white_spaces(), time(<time>), white_spaces(), rest_of_line(<name>);

* skip_white_spaces();
"#

def vxWorks : ServerTypeDefinition :=
  .ofStrings "VxWorks"
    [("name", .name), ("ext", .extension), ("size", .size), ("type", .fileType), ("date", .date),
     ("time", .time)]
    r#"welcome_contains(" VxWorks ")"#
    r#"# directories
* skip_white_spaces(), positive_number(<size>), white_spaces(), month_3(<date>),
  all(1), day(<date>), all(1), year(<date>), white_spaces(), time(<time>),
  white_spaces(), all_up_to(<name>, "<"), cut_white_spaces_end(<name>),
  if(next_word eq "DIR>"), all(4), assign(<is_dir>, true), skip_white_spaces();

# files
* skip_white_spaces(), positive_number(<size>), white_spaces(), month_3(<date>),
  all(1), day(<date>), all(1), year(<date>), white_spaces(), time(<time>),
  white_spaces(), rest_of_line(<name>), cut_white_spaces_end(<name>),
  if("<" not_in <name>);

# "size date time name" header and its underline
* if(first_nonempty_line), skip_white_spaces(), if(next_word eq "size"), word(),
  skip_white_spaces(), if(next_word eq "date"), word(), skip_white_spaces(),
  if(next_word eq "time"), rest_of_line();
* if("----" in next_word), rest_of_line();

* skip_white_spaces();
"#

def tandem : ServerTypeDefinition :=
  .ofStrings "Tandem"
    [("name", .name), ("code", .number), ("size", .size), ("date", .date), ("time", .time),
     ("user", .text), ("RWEP", .text)]
    ""
    r#"* word(<name>), white_spaces(), number(<code>), white_spaces(), positive_number(<size>),
  white_spaces(), day(<date>), all(1), month_3(<date>), all(1), year(<date>), white_spaces(),
  time(<time>), white_spaces(), all_up_to(<user>, "\""), cut_white_spaces_end(<user>),
  all_up_to(<RWEP>, "\"");

# "File Code EOF ..." header
* if(first_nonempty_line), skip_white_spaces(), if(next_word eq "file"), word(),
  skip_white_spaces(), if(next_word eq "code"), word(), skip_white_spaces(),
  if(next_word eq "eof"), rest_of_line();

* skip_white_spaces();
"#

end ListingRules.Stock

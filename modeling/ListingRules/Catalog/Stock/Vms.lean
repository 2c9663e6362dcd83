import ListingRules.Catalog.Definition

namespace ListingRules.Stock

def vms1 : ServerTypeDefinition :=
  .ofStrings "VMS1"
    [("name", .name), ("ext", .extension), ("blksize", .number), ("type", .fileType),
     ("date", .generalDate), ("time", .generalTime), ("rights", .text), ("user", .text)]
    r#"syst_contains(" VMS ")"#
    r#"# directories
* all_up_to(<name>, ".DIR;1"), assign(<is_dir>, true),
  white_spaces_and_line_ends(), number(<blksize>),
  white_spaces(), day(<date>), all(1), month_3(<date>), all(1),
  year(<date>), white_spaces(), time(<time>), all_to("["),
  all_up_to(<user>, "]"), all_to("("), all_up_to(<rights>, ")");

# directories with corrupted user string
* all_up_to(<name>, ".DIR;1"), assign(<is_dir>, true),
  white_spaces_and_line_ends(), number(<blksize>),
  white_spaces(), day(<date>), all(1), month_3(<date>), all(1),
  year(<date>), white_spaces(), time(<time>), all_to("["),
  all_up_to(<user>, "("), cut_white_spaces_end(<user>),
  all_up_to(<rights>, ")");

# files
* word(<name>), white_spaces_and_line_ends(), number(<blksize>),
  white_spaces(), day(<date>), all(1), month_3(<date>),
  all(1), year(<date>), white_spaces(), time(<time>), all_to("["),
  all_up_to(<user>, "]"), all_to("("), all_up_to(<rights>, ")");

# files with corrupted user string
* word(<name>), white_spaces_and_line_ends(), number(<blksize>),
  white_spaces(), day(<date>), all(1), month_3(<date>),
  all(1), year(<date>), white_spaces(), time(<time>), all_to("["),
  all_up_to(<user>, "("), cut_white_spaces_end(<user>),
  all_up_to(<rights>, ")");

# "Directory ???:[???]" header, up to three words
* if(first_nonempty_line), skip_white_spaces(), word(), skip_white_spaces();
* if(first_nonempty_line), skip_white_spaces(), word(), skip_white_spaces(),
  word(), skip_white_spaces();
* if(first_nonempty_line), skip_white_spaces(), word(), skip_white_spaces(),
  word(), skip_white_spaces(), word(), skip_white_spaces();

# "Total of ??? files, ??? blocks." trailer
* if(last_nonempty_line), if(first_nonempty_line == false), rest_of_line();

# any trailer starting with "Total of"
* if(last_nonempty_line), skip_white_spaces(), if(next_word eq "Total"),
  word(), skip_white_spaces(), if(next_word eq "of"), rest_of_line();

# inaccessible directories (based on char "%")
* all_up_to(<name>, ".DIR;1"), assign(<is_dir>, true),
  white_spaces_and_line_ends(), if(next_char=="%"), rest_of_line(<rights>);

# inaccessible directories (based on word "privilege")
* all_up_to(<name>, ".DIR;1"), assign(<is_dir>, true),
  white_spaces_and_line_ends(), all_to(<rights>, "privilege"),
  add_string_to_column(<rights>, rest_of_line), rest_of_line();

# inaccessible files (based on char "%")
* word(<name>), white_spaces_and_line_ends(), if(next_char=="%"),
  rest_of_line(<rights>);

# inaccessible files (based on word "privilege")
* word(<name>), white_spaces_and_line_ends(), all_to(<rights>, "privilege"),
  add_string_to_column(<rights>, rest_of_line), rest_of_line();

# blank lines
* skip_white_spaces();
"#

def vms2 : ServerTypeDefinition :=
  .ofStrings "VMS2"
    [("name", .name), ("ext", .extension), ("blksize", .number), ("type", .fileType),
     ("date", .generalDate), ("time", .generalTime), ("rights", .text), ("user", .text),
     ("allocblks", .number)]
    r#"syst_contains(" VMS ")"#
    r#"# directories
* all_up_to(<name>, ".DIR;1"), assign(<is_dir>, true),
  white_spaces_and_line_ends(), number(<blksize>),
  all(1), number(<allocblks>), white_spaces(), day(<date>), all(1),
  month_3(<date>), all(1), year(<date>), white_spaces(), time(<time>),
  all_to("["), all_up_to(<user>, "]"), all_to("("), all_up_to(<rights>, ")");

# directories with corrupted user string
* all_up_to(<name>, ".DIR;1"), assign(<is_dir>, true),
  white_spaces_and_line_ends(), number(<blksize>),
  all(1), number(<allocblks>), white_spaces(), day(<date>), all(1),
  month_3(<date>), all(1), year(<date>), white_spaces(), time(<time>),
  all_to("["), all_up_to(<user>, "("), cut_white_spaces_end(<user>),
  all_up_to(<rights>, ")");

# files
* word(<name>), white_spaces_and_line_ends(), number(<blksize>),
  all(1), number(<allocblks>), white_spaces(), day(<date>), all(1),
  month_3(<date>), all(1), year(<date>), white_spaces(), time(<time>),
  all_to("["), all_up_to(<user>, "]"), all_to("("), all_up_to(<rights>, ")");

# files with corrupted user string
* word(<name>), white_spaces_and_line_ends(), number(<blksize>),
  all(1), number(<allocblks>), white_spaces(), day(<date>), all(1),
  month_3(<date>), all(1), year(<date>), white_spaces(), time(<time>),
  all_to("["), all_up_to(<user>, "("), cut_white_spaces_end(<user>),
  all_up_to(<rights>, ")");

# "Directory ???:[???]" header, up to three words
* if(first_nonempty_line), skip_white_spaces(), word(), skip_white_spaces();
* if(first_nonempty_line), skip_white_spaces(), word(), skip_white_spaces(),
  word(), skip_white_spaces();
* if(first_nonempty_line), skip_white_spaces(), word(), skip_white_spaces(),
  word(), skip_white_spaces(), word(), skip_white_spaces();

# "Total of ??? files, ??? blocks." trailer
* if(last_nonempty_line), if(first_nonempty_line == false), rest_of_line();

# any trailer starting with "Total of"
* if(last_nonempty_line), skip_white_spaces(), if(next_word eq "Total"),
  word(), skip_white_spaces(), if(next_word eq "of"), rest_of_line();

# inaccessible directories (based on char "%")
* all_up_to(<name>, ".DIR;1"), assign(<is_dir>, true),
  white_spaces_and_line_ends(), if(next_char=="%"), rest_of_line(<rights>);

# inaccessible directories (based on word "privilege")
* all_up_to(<name>, ".DIR;1"), assign(<is_dir>, true),
  white_spaces_and_line_ends(), all_to(<rights>, "privilege"),
  add_string_to_column(<rights>, rest_of_line), rest_of_line();

# inaccessible files (based on char "%")
* word(<name>), white_spaces_and_line_ends(), if(next_char=="%"),
  rest_of_line(<rights>);

# inaccessible files (based on word "privilege")
* word(<name>), white_spaces_and_line_ends(), all_to(<rights>, "privilege"),
  add_string_to_column(<rights>, rest_of_line), rest_of_line();

# blank lines
* skip_white_spaces();
"#

def vms3 : ServerTypeDefinition :=
  .ofStrings "VMS3"
    [("name", .name), ("ext", .extension), ("size", .size), ("type", .fileType),
     ("date", .generalDate), ("time", .generalTime), ("rights", .text), ("blksize", .number)]
    r#"syst_contains(" VMS ")"#
    r#"# directories
* all_up_to(<name>, ".DIR;1"), assign(<is_dir>, true),
  white_spaces_and_line_ends(), day(<date>), all(1),
  month_3(<date>), all(1), year(<date>), white_spaces(), time(<time>),
  white_spaces(), positive_number(<size>), all(1), number(<blksize>), all_to("("),
  all_up_to(<rights>, ")");

# files
* word(<name>), white_spaces_and_line_ends(), day(<date>),
  all(1), month_3(<date>), all(1), year(<date>), white_spaces(), time(<time>),
  white_spaces(), positive_number(<size>), all(1), number(<blksize>), all_to("("),
  all_up_to(<rights>, ")");

# "Directory ???:[???]" header, up to three words
* if(first_nonempty_line), skip_white_spaces(), word(), skip_white_spaces();
* if(first_nonempty_line), skip_white_spaces(), word(), skip_white_spaces(),
  word(), skip_white_spaces();
* if(first_nonempty_line), skip_white_spaces(), word(), skip_white_spaces(),
  word(), skip_white_spaces(), word(), skip_white_spaces();

# "Total of ??? files, ??? blocks." trailer
* if(last_nonempty_line), if(first_nonempty_line == false), rest_of_line();

# any trailer starting with "Total of"
* if(last_nonempty_line), skip_white_spaces(), if(next_word eq "Total"),
  word(), skip_white_spaces(), if(next_word eq "of"), rest_of_line();

# inaccessible directories (based on char "%")
* all_up_to(<name>, ".DIR;1"), assign(<is_dir>, true),
  white_spaces_and_line_ends(), if(next_char=="%"), rest_of_line(<rights>);

# inaccessible directories (based on word "privilege")
* all_up_to(<name>, ".DIR;1"), assign(<is_dir>, true),
  white_spaces_and_line_ends(), all_to(<rights>, "privilege"),
  add_string_to_column(<rights>, rest_of_line), rest_of_line();

# inaccessible files (based on char "%")
* word(<name>), white_spaces_and_line_ends(), if(next_char=="%"),
  rest_of_line(<rights>);

# inaccessible files (based on word "privilege")
* word(<name>), white_spaces_and_line_ends(), all_to(<rights>, "privilege"),
  add_string_to_column(<rights>, rest_of_line), rest_of_line();

# blank lines
* skip_white_spaces();
"#

def vms4 : ServerTypeDefinition :=
  .ofStrings "VMS4"
    [("name", .name), ("ext", .extension), ("blksize", .number), ("type", .fileType),
     ("date", .generalDate), ("time", .generalTime)]
    r#"syst_contains(" VMS ")"#
    r#"# directories
* all_up_to(<name>, ".DIR;1"), assign(<is_dir>, true),
  white_spaces_and_line_ends(), number(<blksize>),
  white_spaces(), day(<date>), all(1), month_3(<date>), all(1),
  year(<date>), white_spaces(), time(<time>);

# files
* word(<name>), white_spaces_and_line_ends(), number(<blksize>),
  white_spaces(), day(<date>), all(1), month_3(<date>),
  all(1), year(<date>), white_spaces(), time(<time>);

# "Directory ???:[???]" header, up to three words
* if(first_nonempty_line), skip_white_spaces(), word(), skip_white_spaces();
* if(first_nonempty_line), skip_white_spaces(), word(), skip_white_spaces(),
  word(), skip_white_spaces();
* if(first_nonempty_line), skip_white_spaces(), word(), skip_white_spaces(),
  word(), skip_white_spaces(), word(), skip_white_spaces();

# "Total of ??? files, ??? blocks." trailer
* if(last_nonempty_line), if(first_nonempty_line == false), rest_of_line();

# any trailer starting with "Total of"
* if(last_nonempty_line), skip_white_spaces(), if(next_word eq "Total"),
  word(), skip_white_spaces(), if(next_word eq "of"), rest_of_line();

# inaccessible directories (based on char "%")
* all_up_to(<name>, ".DIR;1"), assign(<is_dir>, true),
  white_spaces_and_line_ends(), if(next_char=="%"), rest_of_line();

# inaccessible directories (based on word "privilege")
* all_up_to(<name>, ".DIR;1"), assign(<is_dir>, true),
  white_spaces_and_line_ends(), all_to("privilege"), rest_of_line();

# inaccessible files (based on char "%")
* word(<name>), white_spaces_and_line_ends(), if(next_char=="%"),
  rest_of_line();

# inaccessible files (based on word "privilege")
* word(<name>), white_spaces_and_line_ends(), all_to("privilege"),
  rest_of_line();

# blank lines
* skip_white_spaces();
"#

end ListingRules.Stock

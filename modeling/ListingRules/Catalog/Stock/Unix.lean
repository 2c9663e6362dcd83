import ListingRules.Catalog.Definition

namespace ListingRules.Stock

def unix1 : ServerTypeDefinition :=
  .ofStrings "UNIX1"
    [("name", .name), ("ext", .extension), ("size", .size), ("type", .fileType), ("date", .date),
     ("time", .time), ("rights", .text), ("link", .text), ("user", .text), ("group", .text),
     ("device", .text)]
    r#"not syst_contains("z/VM ") and not syst_contains("OS/2 ")
and not syst_contains(" MACOS ") and not syst_contains("Windows_NT")
"#
    r#"# files and directories
* if(next_char!="l"), assign(<is_dir>, next_char=="d"), word(<rights>),
  white_spaces(), word(), white_spaces(), word(<user>), white_spaces(),
  word(<group>), white_spaces(), positive_number(<size>), white_spaces(),
  month_3(<date>), white_spaces(), day(<date>), white_spaces(),
  year(<date>), white_spaces(2),
  assign(<is_hidden>, next_char=="."), rest_of_line(<name>);

* if(next_char!="l"), assign(<is_dir>, next_char=="d"), word(<rights>),
  white_spaces(), word(), white_spaces(), word(<user>), white_spaces(),
  word(<group>), white_spaces(), positive_number(<size>), white_spaces(),
  month_3(<date>), white_spaces(), day(<date>), white_spaces(),
  year_or_time(<date>, <time>), white_spaces(1),
  assign(<is_hidden>, next_char=="."), rest_of_line(<name>);

# links
* if(next_char=="l"), assign(<is_link>, true), word(<rights>), white_spaces(),
  word(), white_spaces(), word(<user>), white_spaces(), word(<group>),
  white_spaces(), word(), white_spaces(),
  month_3(<date>), white_spaces(), day(<date>), white_spaces(),
  year(<date>), white_spaces(2),
  assign(<is_hidden>, next_char=="."), unix_link(<is_dir>, <name>, <link>);

* if(next_char=="l"), assign(<is_link>, true), word(<rights>), white_spaces(),
  word(), white_spaces(), word(<user>), white_spaces(), word(<group>),
  white_spaces(), word(), white_spaces(),
  month_3(<date>), white_spaces(), day(<date>), white_spaces(),
  year_or_time(<date>, <time>), white_spaces(1),
  assign(<is_hidden>, next_char=="."), unix_link(<is_dir>, <name>, <link>);

# devices
* word(<rights>), white_spaces(), word(), white_spaces(), word(<user>),
  white_spaces(), word(<group>), white_spaces(), unix_device(<device>),
  white_spaces(), month_3(<date>), white_spaces(), day(<date>), white_spaces(),
  year(<date>), white_spaces(2),
  assign(<is_hidden>, next_char=="."), rest_of_line(<name>);

* word(<rights>), white_spaces(), word(), white_spaces(), word(<user>),
  white_spaces(), word(<group>), white_spaces(), unix_device(<device>),
  white_spaces(), month_3(<date>), white_spaces(), day(<date>), white_spaces(),
  year_or_time(<date>, <time>), white_spaces(1),
  assign(<is_hidden>, next_char=="."), rest_of_line(<name>);

# files and directories, user and group containing spaces
* if(next_char!="l"), assign(<is_dir>, next_char=="d"), word(<rights>),
  white_spaces(), word(), skip_to_number(), positive_number(<size>),
  white_spaces(), month_3(<date>), white_spaces(), day(<date>),
  white_spaces(), year(<date>), white_spaces(2),
  assign(<is_hidden>, next_char=="."), rest_of_line(<name>);

* if(next_char!="l"), assign(<is_dir>, next_char=="d"), word(<rights>),
  white_spaces(), word(), skip_to_number(), positive_number(<size>),
  white_spaces(), month_3(<date>), white_spaces(), day(<date>), white_spaces(),
  year_or_time(<date>, <time>), white_spaces(1),
  assign(<is_hidden>, next_char=="."), rest_of_line(<name>);

# links, user and group containing spaces
* if(next_char=="l"), assign(<is_link>, true), word(<rights>), white_spaces(),
  word(), skip_to_number(), word(), white_spaces(), month_3(<date>),
  white_spaces(), day(<date>), white_spaces(), year(<date>), white_spaces(2),
  assign(<is_hidden>, next_char=="."), unix_link(<is_dir>, <name>, <link>);

* if(next_char=="l"), assign(<is_link>, true), word(<rights>), white_spaces(),
  word(), skip_to_number(), word(), white_spaces(), month_3(<date>),
  white_spaces(), day(<date>), white_spaces(), year_or_time(<date>, <time>),
  white_spaces(1), assign(<is_hidden>, next_char=="."),
  unix_link(<is_dir>, <name>, <link>);

# devices, user and group containing spaces
* word(<rights>), white_spaces(), word(), skip_to_number(),
  unix_device(<device>), white_spaces(), month_3(<date>), white_spaces(),
  day(<date>), white_spaces(), year(<date>), white_spaces(2),
  assign(<is_hidden>, next_char=="."), rest_of_line(<name>);

* word(<rights>), white_spaces(), word(), skip_to_number(),
  unix_device(<device>), white_spaces(), month_3(<date>), white_spaces(),
  day(<date>), white_spaces(), year_or_time(<date>, <time>), white_spaces(1),
  assign(<is_hidden>, next_char=="."), rest_of_line(<name>);

# "total 123" header, up to three words
* if(first_nonempty_line), skip_white_spaces(), word(), skip_white_spaces();
* if(first_nonempty_line), skip_white_spaces(), word(), skip_white_spaces(),
  word(), skip_white_spaces();
* if(first_nonempty_line), skip_white_spaces(), word(), skip_white_spaces(),
  word(), skip_white_spaces(), word(), skip_white_spaces();

# blank lines
* skip_white_spaces();
"#

def unix2 : ServerTypeDefinition :=
  .ofStrings "UNIX2"
    [("name", .name), ("ext", .extension), ("size", .size), ("type", .fileType), ("date", .date),
     ("time", .time), ("rights", .text), ("link", .text), ("user", .text), ("group", .text),
     ("device", .text)]
    r#"not syst_contains("z/VM ") and not syst_contains("OS/2 ")
and not syst_contains(" MACOS ") and not syst_contains("Windows_NT")
"#
    r#"# files and directories
* if(next_char!="l"), assign(<is_dir>, next_char=="d"), word(<rights>),
  white_spaces(), word(), white_spaces(), word(<user>), white_spaces(),
  word(<group>), white_spaces(), positive_number(<size>), white_spaces(),
  month_3(<date>), white_spaces(), day(<date>), white_spaces(),
  year_or_time(<date>, <time>), white_spaces(1),
  assign(<is_hidden>, next_char=="."), rest_of_line(<name>);

# links
* if(next_char=="l"), assign(<is_link>, true), word(<rights>), white_spaces(),
  word(), white_spaces(), word(<user>), white_spaces(), word(<group>),
  white_spaces(), word(), white_spaces(),
  month_3(<date>), white_spaces(), day(<date>), white_spaces(),
  year_or_time(<date>, <time>), white_spaces(1),
  assign(<is_hidden>, next_char=="."), unix_link(<is_dir>, <name>, <link>);

# devices
* word(<rights>), white_spaces(), word(), white_spaces(), word(<user>),
  white_spaces(), word(<group>), white_spaces(), unix_device(<device>),
  white_spaces(), month_3(<date>), white_spaces(), day(<date>), white_spaces(),
  year_or_time(<date>, <time>), white_spaces(1),
  assign(<is_hidden>, next_char=="."), rest_of_line(<name>);

# files and directories, user and group containing spaces
* if(next_char!="l"), assign(<is_dir>, next_char=="d"), word(<rights>),
  white_spaces(), word(), skip_to_number(), positive_number(<size>),
  white_spaces(), month_3(<date>), white_spaces(), day(<date>), white_spaces(),
  year_or_time(<date>, <time>), white_spaces(1),
  assign(<is_hidden>, next_char=="."), rest_of_line(<name>);

# links, user and group containing spaces
* if(next_char=="l"), assign(<is_link>, true), word(<rights>), white_spaces(),
  word(), skip_to_number(), word(), white_spaces(), month_3(<date>),
  white_spaces(), day(<date>), white_spaces(), year_or_time(<date>, <time>),
  white_spaces(1), assign(<is_hidden>, next_char=="."),
  unix_link(<is_dir>, <name>, <link>);

# devices, user and group containing spaces
* word(<rights>), white_spaces(), word(), skip_to_number(),
  unix_device(<device>), white_spaces(), month_3(<date>), white_spaces(),
  day(<date>), white_spaces(), year_or_time(<date>, <time>), white_spaces(1),
  assign(<is_hidden>, next_char=="."), rest_of_line(<name>);

# "total 123" header, up to three words
* if(first_nonempty_line), skip_white_spaces(), word(), skip_white_spaces();
* if(first_nonempty_line), skip_white_spaces(), word(), skip_white_spaces(),
  word(), skip_white_spaces();
* if(first_nonempty_line), skip_white_spaces(), word(), skip_white_spaces(),
  word(), skip_white_spaces(), word(), skip_white_spaces();

# blank lines
* skip_white_spaces();
"#

def unix3 : ServerTypeDefinition :=
  .ofStrings "UNIX3"
    [("name", .name), ("ext", .extension), ("size", .size), ("type", .fileType), ("date", .date),
     ("time", .time), ("rights", .text), ("link", .text), ("user", .text), ("device", .text)]
    r#"(not welcome_contains(" NW ") or not welcome_contains(" HellSoft."))
and not syst_contains("z/VM ") and not syst_contains("OS/2 ")
and not syst_contains(" MACOS ") and not syst_contains("Windows_NT")
"#
    r#"# files and directories
* if(next_char!="l"), assign(<is_dir>, next_char=="d"), word(<rights>),
  white_spaces(), word(), white_spaces(), word(<user>), white_spaces(),
  positive_number(<size>), white_spaces(), month_3(<date>), white_spaces(),
  day(<date>), white_spaces(), year_or_time(<date>, <time>),
  white_spaces(1), assign(<is_hidden>, next_char=="."), rest_of_line(<name>);

# links
* if(next_char=="l"), assign(<is_link>, true), word(<rights>), white_spaces(),
  word(), white_spaces(), word(<user>), white_spaces(), word(), white_spaces(),
  month_3(<date>), white_spaces(), day(<date>), white_spaces(),
  year_or_time(<date>, <time>), white_spaces(1),
  assign(<is_hidden>, next_char=="."), unix_link(<is_dir>, <name>, <link>);

# devices
* word(<rights>), white_spaces(), word(), white_spaces(), word(<user>),
  white_spaces(), unix_device(<device>), white_spaces(), month_3(<date>),
  white_spaces(), day(<date>), white_spaces(), year_or_time(<date>, <time>),
  white_spaces(1), assign(<is_hidden>, next_char=="."), rest_of_line(<name>);

# files and directories, user containing spaces
* if(next_char!="l"), assign(<is_dir>, next_char=="d"), word(<rights>),
  white_spaces(), word(), skip_to_number(), positive_number(<size>),
  white_spaces(), month_3(<date>), white_spaces(), day(<date>),
  white_spaces(), year_or_time(<date>, <time>), white_spaces(1),
  assign(<is_hidden>, next_char=="."), rest_of_line(<name>);

# links, user containing spaces
* if(next_char=="l"), assign(<is_link>, true), word(<rights>), white_spaces(),
  word(), skip_to_number(), word(), white_spaces(), month_3(<date>),
  white_spaces(), day(<date>), white_spaces(), year_or_time(<date>, <time>),
  white_spaces(1), assign(<is_hidden>, next_char=="."),
  unix_link(<is_dir>, <name>, <link>);

# devices, user containing spaces
* word(<rights>), white_spaces(), word(), skip_to_number(),
  unix_device(<device>), white_spaces(), month_3(<date>), white_spaces(),
  day(<date>), white_spaces(), year_or_time(<date>, <time>), white_spaces(1),
  assign(<is_hidden>, next_char=="."), rest_of_line(<name>);

# "total 123" header, up to three words
* if(first_nonempty_line), skip_white_spaces(), word(), skip_white_spaces();
* if(first_nonempty_line), skip_white_spaces(), word(), skip_white_spaces(),
  word(), skip_white_spaces();
* if(first_nonempty_line), skip_white_spaces(), word(), skip_white_spaces(),
  word(), skip_white_spaces(), word(), skip_white_spaces();

# blank lines
* skip_white_spaces();
"#

def unix4 : ServerTypeDefinition :=
  .ofStrings "UNIX4"
    [("name", .name), ("ext", .extension), ("size", .size), ("type", .fileType), ("date", .date),
     ("time", .time), ("rights", .text), ("link", .text), ("user", .text), ("group", .text),
     ("device", .text)]
    r#"not syst_contains("z/VM ") and not syst_contains("OS/2 ")
and not syst_contains(" MACOS ") and not syst_contains("Windows_NT")
"#
    r#"# files and directories
* if(next_char!="l"), assign(<is_dir>, next_char=="d"), word(<rights>),
  white_spaces(), word(), white_spaces(), word(<user>), white_spaces(),
  word(<group>), white_spaces(), positive_number(<size>), white_spaces(),
  day(<date>), all(1), skip_white_spaces(), month_txt(<date>), all(1),
  skip_white_spaces(), year_or_time(<date>, <time>), white_spaces(1),
  assign(<is_hidden>, next_char=="."), rest_of_line(<name>);

# links
* if(next_char=="l"), assign(<is_link>, true), word(<rights>), white_spaces(),
  word(), white_spaces(), word(<user>), white_spaces(), word(<group>),
  white_spaces(), word(), white_spaces(), day(<date>), all(1), skip_white_spaces(),
  month_txt(<date>), all(1), skip_white_spaces(), year_or_time(<date>, <time>),
  white_spaces(1), assign(<is_hidden>, next_char=="."),
  unix_link(<is_dir>, <name>, <link>);

# devices
* word(<rights>), white_spaces(), word(), white_spaces(), word(<user>),
  white_spaces(), word(<group>), white_spaces(), unix_device(<device>),
  white_spaces(), day(<date>), all(1), skip_white_spaces(), month_txt(<date>),
  all(1), skip_white_spaces(), year_or_time(<date>, <time>), white_spaces(1),
  assign(<is_hidden>, next_char=="."), rest_of_line(<name>);

# files and directories, user and group containing spaces
* if(next_char!="l"), assign(<is_dir>, next_char=="d"), word(<rights>),
  white_spaces(), word(), skip_to_number(), positive_number(<size>),
  white_spaces(), day(<date>), all(1), skip_white_spaces(), month_txt(<date>),
  all(1), skip_white_spaces(), year_or_time(<date>, <time>), white_spaces(1),
  assign(<is_hidden>, next_char=="."), rest_of_line(<name>);

# links, user and group containing spaces
* if(next_char=="l"), assign(<is_link>, true), word(<rights>), white_spaces(),
  word(), skip_to_number(), word(), white_spaces(), day(<date>), all(1),
  skip_white_spaces(), month_txt(<date>), all(1), skip_white_spaces(),
  year_or_time(<date>, <time>), white_spaces(1),
  assign(<is_hidden>, next_char=="."), unix_link(<is_dir>, <name>, <link>);

# devices, user and group containing spaces
* word(<rights>), white_spaces(), word(), skip_to_number(),
  unix_device(<device>), white_spaces(), day(<date>), all(1),
  skip_white_spaces(), month_txt(<date>), all(1), skip_white_spaces(),
  year_or_time(<date>, <time>), white_spaces(1),
  assign(<is_hidden>, next_char=="."), rest_of_line(<name>);

# "total 123" header, up to three words
* if(first_nonempty_line), skip_white_spaces(), word(), skip_white_spaces();
* if(first_nonempty_line), skip_white_spaces(), word(), skip_white_spaces(),
  word(), skip_white_spaces();
* if(first_nonempty_line), skip_white_spaces(), word(), skip_white_spaces(),
  word(), skip_white_spaces(), word(), skip_white_spaces();

# blank lines
* skip_white_spaces();
"#

def unix5 : ServerTypeDefinition :=
  .ofStrings "UNIX5"
    [("name", .name), ("ext", .extension), ("size", .size), ("type", .fileType), ("date", .date),
     ("time", .time), ("rights", .text), ("link", .text), ("user", .text), ("group", .text),
     ("device", .text)]
    r#"not syst_contains("z/VM ") and not syst_contains("OS/2 ")
and not syst_contains(" MACOS ") and not syst_contains("Windows_NT")
"#
    r#"# files and directories
* if(next_char!="l"), assign(<is_dir>, next_char=="d"), word(<rights>),
  white_spaces(), word(), white_spaces(), word(<user>), white_spaces(),
  word(<group>), white_spaces(), positive_number(<size>), white_spaces(),
  day(<date>), white_spaces(), month_3(<date>), white_spaces(),
  year(<date>), white_spaces(2),
  assign(<is_hidden>, next_char=="."), rest_of_line(<name>);

* if(next_char!="l"), assign(<is_dir>, next_char=="d"), word(<rights>),
  white_spaces(), word(), white_spaces(), word(<user>), white_spaces(),
  word(<group>), white_spaces(), positive_number(<size>), white_spaces(),
  day(<date>), white_spaces(), month_3(<date>), white_spaces(),
  year_or_time(<date>, <time>), white_spaces(1),
  assign(<is_hidden>, next_char=="."), rest_of_line(<name>);

# links
* if(next_char=="l"), assign(<is_link>, true), word(<rights>), white_spaces(),
  word(), white_spaces(), word(<user>), white_spaces(), word(<group>),
  white_spaces(), word(), white_spaces(),
  day(<date>), white_spaces(), month_3(<date>), white_spaces(),
  year(<date>), white_spaces(2),
  assign(<is_hidden>, next_char=="."), unix_link(<is_dir>, <name>, <link>);

* if(next_char=="l"), assign(<is_link>, true), word(<rights>), white_spaces(),
  word(), white_spaces(), word(<user>), white_spaces(), word(<group>),
  white_spaces(), word(), white_spaces(),
  day(<date>), white_spaces(), month_3(<date>), white_spaces(),
  year_or_time(<date>, <time>), white_spaces(1),
  assign(<is_hidden>, next_char=="."), unix_link(<is_dir>, <name>, <link>);

# devices
* word(<rights>), white_spaces(), word(), white_spaces(), word(<user>),
  white_spaces(), word(<group>), white_spaces(), unix_device(<device>),
  white_spaces(), day(<date>), white_spaces(), month_3(<date>), white_spaces(),
  year(<date>), white_spaces(2),
  assign(<is_hidden>, next_char=="."), rest_of_line(<name>);

* word(<rights>), white_spaces(), word(), white_spaces(), word(<user>),
  white_spaces(), word(<group>), white_spaces(), unix_device(<device>),
  white_spaces(), day(<date>), white_spaces(), month_3(<date>), white_spaces(),
  year_or_time(<date>, <time>), white_spaces(1),
  assign(<is_hidden>, next_char=="."), rest_of_line(<name>);

# files and directories, user and group containing spaces
* if(next_char!="l"), assign(<is_dir>, next_char=="d"), word(<rights>),
  white_spaces(), word(), skip_to_number(), positive_number(<size>),
  white_spaces(), day(<date>), white_spaces(), month_3(<date>), white_spaces(),
  year(<date>), white_spaces(2),
  assign(<is_hidden>, next_char=="."), rest_of_line(<name>);

* if(next_char!="l"), assign(<is_dir>, next_char=="d"), word(<rights>),
  white_spaces(), word(), skip_to_number(), positive_number(<size>),
  white_spaces(), day(<date>), white_spaces(), month_3(<date>), white_spaces(),
  year_or_time(<date>, <time>), white_spaces(1),
  assign(<is_hidden>, next_char=="."), rest_of_line(<name>);

# links, user and group containing spaces
* if(next_char=="l"), assign(<is_link>, true), word(<rights>), white_spaces(),
  word(), skip_to_number(), word(), white_spaces(), day(<date>), white_spaces(),
  month_3(<date>), white_spaces(), year(<date>), white_spaces(2),
  assign(<is_hidden>, next_char=="."), unix_link(<is_dir>, <name>, <link>);

* if(next_char=="l"), assign(<is_link>, true), word(<rights>), white_spaces(),
  word(), skip_to_number(), word(), white_spaces(), day(<date>), white_spaces(),
  month_3(<date>), white_spaces(), year_or_time(<date>, <time>), white_spaces(1),
  assign(<is_hidden>, next_char=="."), unix_link(<is_dir>, <name>, <link>);

# devices, user and group containing spaces
* word(<rights>), white_spaces(), word(), skip_to_number(),
  unix_device(<device>), white_spaces(), day(<date>), white_spaces(),
  month_3(<date>), white_spaces(), year(<date>), white_spaces(2),
  assign(<is_hidden>, next_char=="."), rest_of_line(<name>);

* word(<rights>), white_spaces(), word(), skip_to_number(),
  unix_device(<device>), white_spaces(), day(<date>), white_spaces(),
  month_3(<date>), white_spaces(), year_or_time(<date>, <time>), white_spaces(1),
  assign(<is_hidden>, next_char=="."), rest_of_line(<name>);

# "total 123" header, up to three words
* if(first_nonempty_line), skip_white_spaces(), word(), skip_white_spaces();
* if(first_nonempty_line), skip_white_spaces(), word(), skip_white_spaces(),
  word(), skip_white_spaces();
* if(first_nonempty_line), skip_white_spaces(), word(), skip_white_spaces(),
  word(), skip_white_spaces(), word(), skip_white_spaces();

# blank lines
* skip_white_spaces();
"#

def unix6 : ServerTypeDefinition :=
  .ofStrings "UNIX6"
    [("name", .name), ("ext", .extension), ("size", .size), ("type", .fileType),
     ("rights", .text), ("link", .text), ("user", .text), ("group", .text), ("device", .text)]
    r#"not syst_contains("z/VM ") and not syst_contains("OS/2 ")
and not syst_contains(" MACOS ") and not syst_contains("Windows_NT")
"#
    r#"# files and directories
* if(next_char!="l"), assign(<is_dir>, next_char=="d"), word(<rights>),
  white_spaces(), word(), white_spaces(), word(<user>), white_spaces(),
  word(<group>), white_spaces(), positive_number(<size>), white_spaces(1),
  assign(<is_hidden>, next_char=="."), rest_of_line(<name>);

# links
* if(next_char=="l"), assign(<is_link>, true), word(<rights>), white_spaces(),
  word(), white_spaces(), word(<user>), white_spaces(), word(<group>),
  white_spaces(), word(), white_spaces(1),
  assign(<is_hidden>, next_char=="."), unix_link(<is_dir>, <name>, <link>);

# devices
* word(<rights>), white_spaces(), word(), white_spaces(), word(<user>),
  white_spaces(), word(<group>), white_spaces(), unix_device(<device>),
  white_spaces(1), assign(<is_hidden>, next_char=="."), rest_of_line(<name>);

# files and directories, user and group containing spaces
* if(next_char!="l"), assign(<is_dir>, next_char=="d"), word(<rights>),
  white_spaces(), word(), skip_to_number(), positive_number(<size>),
  white_spaces(1), assign(<is_hidden>, next_char=="."), rest_of_line(<name>);

# links, user and group containing spaces
* if(next_char=="l"), assign(<is_link>, true), word(<rights>), white_spaces(),
  word(), skip_to_number(), word(), white_spaces(1),
  assign(<is_hidden>, next_char=="."), unix_link(<is_dir>, <name>, <link>);

# devices, user and group containing spaces
* word(<rights>), white_spaces(), word(), skip_to_number(),
  unix_device(<device>), white_spaces(1),
  assign(<is_hidden>, next_char=="."), rest_of_line(<name>);

# "total 123" header, up to three words
* if(first_nonempty_line), skip_white_spaces(), word(), skip_white_spaces();
* if(first_nonempty_line), skip_white_spaces(), word(), skip_white_spaces(),
  word(), skip_white_spaces();
* if(first_nonempty_line), skip_white_spaces(), word(), skip_white_spaces(),
  word(), skip_white_spaces(), word(), skip_white_spaces();

# blank lines
* skip_white_spaces();
"#

def xbox360 : ServerTypeDefinition :=
  .ofStrings "Xbox 360"
    [("name", .name), ("ext", .extension), ("size", .size), ("type", .fileType), ("date", .date),
     ("time", .time), ("rights", .text), ("user", .text), ("group", .text)]
    r#"not syst_contains("z/VM ") and not syst_contains("OS/2 ")
and not syst_contains(" MACOS ") and not syst_contains("Windows_NT")
"#
    r#"# files and directories
* if(next_char!="l"), assign(<is_dir>, next_char=="d"), word(<rights>),
  white_spaces(), word(), white_spaces(), word(<user>), white_spaces(),
  word(<group>), white_spaces(), positive_number(<size>), white_spaces(),
  year(<date>), all(1), month(<date>), all(1), day(<date>), all(1), time(<time>),
  white_spaces(1), assign(<is_hidden>, next_char=="."), rest_of_line(<name>);

# blank lines
* skip_white_spaces();
"#

end ListingRules.Stock

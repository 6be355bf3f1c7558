import SimpleSentence.CommandLine.Invocation

/-!
The texts shown for a refused command line.
-/

namespace SimpleSentence.CommandLine

def usageLines : List Text :=
  ["Part-of-speech tagger and parser for simple English sentences".toList,
    [],
    "Usage:".toList,
    "  tag <TEXT>... | -f <FILE>      show the part-of-speech tag of every word".toList,
    "  parse <TEXT>... | -f <FILE>    parse a sentence and print its tree".toList,
    "  run [DIR]                      tag and parse every .txt file in a directory".toList,
    "  lexicon [-o <FILE>]            count or export the entries of the lexicon".toList,
    [],
    "Options:".toList,
    "  -f, --file <FILE>      read the sentence from FILE ('-' for stdin)".toList,
    "      --json             print machine-readable JSON".toList,
    "      --color <WHEN>     colorize output: auto, always or never".toList,
    "      --lexicon <FILE>   lexicon CSV with 'word' and 'pos' columns".toList,
    "  -o, --output <FILE>    write output to file".toList,
    "  -v                     log more".toList,
    "  -h, --help             print help".toList,
    []]

def usage : Text := Text.joinWith ['\n'] usageLines

def refusalText : Refusal → Text
  | .unknownArgument => "unexpected argument found".toList
  | .unknownCommand => "unrecognized subcommand".toList
  | .badValue => "invalid or missing value for an option".toList
  | .conflict => "options that cannot be used together".toList
  | .surplusValue => "unexpected value for an option that takes none".toList
  | .help => usage
  | .nothingAsked => usage

end SimpleSentence.CommandLine

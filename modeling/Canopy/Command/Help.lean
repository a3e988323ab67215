namespace Canopy.Command

/-- The program and its two commands, each with options and help of its own. -/
inductive Section where
  | top
  | parse
  | languages
deriving Repr, DecidableEq

namespace Section

def name : Section → String
  | .top => "uniast"
  | .parse => "uniast parse"
  | .languages => "uniast languages"

def usage : Section → String
  | .top => "usage: uniast [-h] [--version] \x7bparse,languages\x7d ...\n"
  | .parse =>
    "usage: uniast parse [-h] [--language LANGUAGE] [--truncate TRUNCATE]\n" ++
    "                    [--format \x7bjson,table\x7d]\n" ++
    "                    file\n"
  | .languages => "usage: uniast languages [-h]\n"

def description : Section → String
  | .top =>
    "\nUnified multi-language AST\n" ++
    "\npositional arguments:\n" ++
    "  \x7bparse,languages\x7d  Available commands\n" ++
    "    parse            Print the normalized AST of a file\n" ++
    "    languages        List supported languages and aliases\n" ++
    "\noptions:\n" ++
    "  -h, --help         show this help message and exit\n" ++
    "  --version          show program's version number and exit\n"
  | .parse =>
    "\npositional arguments:\n" ++
    "  file                  Source file to parse\n" ++
    "\noptions:\n" ++
    "  -h, --help            show this help message and exit\n" ++
    "  --language LANGUAGE, -l LANGUAGE\n" ++
    "                        Language name or alias (default: inferred from the\n" ++
    "                        file extension)\n" ++
    "  --truncate TRUNCATE   Keep at most N bytes of each node value\n" ++
    "  --format \x7bjson,table\x7d\n" ++
    "                        Output format (default: json)\n"
  | .languages =>
    "\noptions:\n" ++
    "  -h, --help  show this help message and exit\n"

def help (s : Section) : String := s.usage ++ s.description

end Section

def versionText : String := "uniast 0.1.0\n"

end Canopy.Command

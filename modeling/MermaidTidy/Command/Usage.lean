import MermaidTidy.Text.Basic

/-!
# Texts of the command line

What the program says about itself.
-/

namespace MermaidTidy.Command

/-- The name of the program. -/
def programName : Text := "mermaid-fmt".toList

/-- The name and the version of the program. -/
def versionText : Text := programName ++ " 0.3.0\n".toList

/-- How the program is called. -/
def usageText : Text :=
  ("usage: mermaid-fmt [-h] [--write] [--check] [--indent N] [--tabs] [--markdown]\n" ++
   "                   [--config CONFIG] [--verbose] [--version]\n" ++
   "                   [files ...]\n").toList

/-- The description of the program and its switches. -/
def helpText : Text :=
  usageText ++
  ("\nFormat Mermaid diagram sources\n" ++
   "\npositional arguments:\n" ++
   "  files            Files to format (default: read stdin)\n" ++
   "\noptions:\n" ++
   "  -h, --help       show this help message and exit\n" ++
   "  --write, -w      Rewrite files in place\n" ++
   "  --check          Exit with 1 if any file would change\n" ++
   "  --indent N       Spaces per indentation level (default: 4)\n" ++
   "  --tabs           Indent with tabs\n" ++
   "  --markdown       Treat input as markdown with mermaid blocks\n" ++
   "  --config CONFIG  JSON config file (default: ./mermaid_fmt.json)\n" ++
   "  --verbose, -v    Verbose logging\n" ++
   "  --version        show program's version number and exit\n").toList

/-- The report about refused arguments. -/
def usageReport (message : Text) : Text :=
  usageText ++ programName ++ ": error: ".toList ++ message ++ ['\n']

end MermaidTidy.Command

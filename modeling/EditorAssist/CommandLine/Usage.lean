/-! # What the program says about itself

The texts that the command line shows: how it is used, what it offers, and its version. -/

namespace EditorAssist.CommandLine

/-- The name of the program. -/
def programName : String := "mrya-lsp"

/-- The version of the program. -/
def version : String := "0.3.0"

/-- The commands: the program itself, and starting the server. -/
inductive Command where
  | program
  | server
deriving Repr, DecidableEq

namespace Command

/-- The name of the command in messages. -/
def title : Command → String
  | .program => programName
  | .server => programName ++ " server"

/-- How the command is used. -/
def usage : Command → String
  | .program =>
    "usage: mrya-lsp [-h] [--version]\n" ++
    "                [--log-level \x7bDEBUG,INFO,WARNING,ERROR,CRITICAL\x7d]\n" ++
    "                [--package-modules PACKAGE_MODULES]\n" ++
    "                \x7bserver\x7d ...\n"
  | .server => "usage: mrya-lsp server [-h] [--tcp] [--port PORT] [--stdio]\n"

/-- What the command offers. -/
def details : Command → String
  | .program =>
    "mrya-lsp: Language Server Protocol implementation for the Mrya language\n\n" ++
    "Provides editor support for .mrya files with:\n" ++
    "• Context-aware completion of keywords, builtins, modules and your declarations\n" ++
    "• Import path completion for native modules, packages and workspace files\n" ++
    "• Hover documentation for builtin functions and module members\n\n" ++
    "positional arguments:\n" ++
    "  \x7bserver\x7d              Available commands\n" ++
    "    server              Start the LSP server\n\n" ++
    "options:\n" ++
    "  -h, --help            show this help message and exit\n" ++
    "  --version             show program's version number and exit\n" ++
    "  --log-level \x7bDEBUG,INFO,WARNING,ERROR,CRITICAL\x7d\n" ++
    "                        Set the logging level (default: INFO)\n" ++
    "  --package-modules PACKAGE_MODULES\n" ++
    "                        Comma-separated list of additional package modules offered in " ++
    "import paths (e.g., sprites,net)\n"
  | .server =>
    "options:\n" ++
    "  -h, --help   show this help message and exit\n" ++
    "  --tcp        Use TCP instead of stdio\n" ++
    "  --port PORT  TCP port to listen on (default: 8080)\n" ++
    "  --stdio      Use stdio (default)\n"

/-- The help of the command. -/
def help (c : Command) : String := c.usage ++ "\n" ++ c.details

end Command

end EditorAssist.CommandLine

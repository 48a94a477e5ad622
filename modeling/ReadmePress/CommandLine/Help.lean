/-!
The usage and help texts of the program and of its commands.
-/

namespace ReadmePress

namespace Help

/-- Lines with their ends. -/
def ofLines (lines : List String) : String :=
  String.join (lines.map fun line => line ++ "\n")

def programUsage : String :=
  ofLines
    ["usage: readmegen [-h] [-v] [-q] \x7bdetect,readme,pro,write,serve\x7d ..."]

/-- The help on the program as a whole after its usage. -/
def programDetails : String :=
  ofLines
    ["",
      "Generate README files from a project's manifest, layout and sources.",
      "",
      "positional arguments:",
      "  \x7bdetect,readme,pro,write,serve\x7d",
      "    detect              Summarise the package.json of a project directory.",
      "    readme              Render a minimal README from a name, description and",
      "                        feature list.",
      "    pro                 Scan a project directory and render a complete README.",
      "    write               Write text to a file, previewing unless confirmed.",
      "    serve               Expose the README tools over HTTP.",
      "",
      "options:",
      "  -h, --help            show this help message and exit",
      "  -v, --verbose         Increase log verbosity for troubleshooting.",
      "  -q, --quiet           Only log warnings and errors."]

/-- The usage of the summary of a manifest. -/
def detectUsage : String :=
  ofLines
    ["usage: readmegen detect [-h] [-v] [path]"]

/-- The help on the summary of a manifest after its usage. -/
def detectDetails : String :=
  ofLines
    ["",
      "positional arguments:",
      "  path           Project directory (defaults to current directory).",
      "",
      "options:",
      "  -h, --help     show this help message and exit",
      "  -v, --verbose  Increase log verbosity for troubleshooting."]

def shortUsage : String :=
  ofLines
    ["usage: readmegen readme [-h] [-v] --name NAME [--description DESCRIPTION]",
      "                        [--feature FEATURES]"]

/-- The help on the short document after its usage. -/
def shortDetails : String :=
  ofLines
    ["",
      "options:",
      "  -h, --help            show this help message and exit",
      "  -v, --verbose         Increase log verbosity for troubleshooting.",
      "  --name NAME           Project name used as the title.",
      "  --description DESCRIPTION",
      "                        Short project description.",
      "  --feature FEATURES    Feature bullet; repeat for several."]

def fullUsage : String :=
  ofLines
    ["usage: readmegen pro [-h] [-v] [--name NAME] [--description DESCRIPTION]",
      "                     [--feature FEATURES] [--no-badges] [--no-toc]",
      "                     [--depth MAX_TREE_DEPTH] [--language \x7bzh,en\x7d]",
      "                     [--output OUTPUT] [--confirm]",
      "                     [path]"]

/-- The help on the full document after its usage. -/
def fullDetails : String :=
  ofLines
    ["",
      "positional arguments:",
      "  path                  Project directory (defaults to current directory).",
      "",
      "options:",
      "  -h, --help            show this help message and exit",
      "  -v, --verbose         Increase log verbosity for troubleshooting.",
      "  --name NAME           Override the detected project name.",
      "  --description DESCRIPTION",
      "                        Project description.",
      "  --feature FEATURES    Extra feature bullet appended after detected ones;",
      "                        repeat for several.",
      "  --no-badges           Omit the badge line.",
      "  --no-toc              Omit the table of contents.",
      "  --depth MAX_TREE_DEPTH",
      "                        Maximum depth of the project structure listing (1-5).",
      "  --language \x7bzh,en\x7d    Heading language for the generated README.",
      "  --output OUTPUT       Write the README to this path (requires --confirm).",
      "  --confirm             Actually write to disk; without it only a preview is",
      "                        printed."]

def writeUsage : String :=
  ofLines
    ["usage: readmegen write [-h] [-v] (--content CONTENT | --from-file FROM_FILE)",
      "                       [--confirm]",
      "                       file_path"]

/-- The help on writing a text after its usage. -/
def writeDetails : String :=
  ofLines
    ["",
      "positional arguments:",
      "  file_path             Destination path, relative to the current directory.",
      "",
      "options:",
      "  -h, --help            show this help message and exit",
      "  -v, --verbose         Increase log verbosity for troubleshooting.",
      "  --content CONTENT     Text to write.",
      "  --from-file FROM_FILE",
      "                        Read the text to write from this file.",
      "  --confirm             Actually write to disk; without it only a preview is",
      "                        printed."]

def serveUsage : String :=
  ofLines
    ["usage: readmegen serve [-h] [-v] [--host HOST] [--port PORT]"]

/-- The help on the service after its usage. -/
def serveDetails : String :=
  ofLines
    ["",
      "options:",
      "  -h, --help     show this help message and exit",
      "  -v, --verbose  Increase log verbosity for troubleshooting.",
      "  --host HOST    Interface to bind.",
      "  --port PORT    Port to listen on."]

end Help

end ReadmePress

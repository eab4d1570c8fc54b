import Commentary.CommandLine.Options
import Commentary.Source.Token

/-!
This module contains the commands of the program, with their descriptions and their flags.
-/

namespace Commentary

namespace CommandLine

inductive ScriptShell where
  | bash
  | fish
  | powershell
  | zsh
  deriving DecidableEq, Repr

def ScriptShell.name : ScriptShell → String
  | .bash => "bash"
  | .fish => "fish"
  | .powershell => "powershell"
  | .zsh => "zsh"

inductive Command where
  | root
  | completion
  | script (shell : ScriptShell)
  | generate
  | help
  | render
  | schema
  | version
  -- The command that shells use to ask for completions. It is not listed.
  | complete
  deriving DecidableEq, Repr

namespace Command

def name : Command → String
  | .root => "commentdoc"
  | .completion => "completion"
  | .script shell => shell.name
  | .generate => "generate"
  | .help => "help"
  | .render => "render"
  | .schema => "schema"
  | .version => "version"
  | .complete => "__complete"

def completeBriefly : String := "__completeNoDesc"

def children : Command → List Command
  | .root => [.generate, .render, .schema, .version, .help, .completion, .complete]
  | .completion => [.script .bash, .script .zsh, .script .fish, .script .powershell]
  | _ => []

def isListed (c : Command) : Bool :=
  c ≠ .complete

def listedChildren (c : Command) : List Command :=
  (c.children.filter isListed).mergeSort fun a b => a.name ≤ b.name

def isRunnable : Command → Bool
  | .root | .completion => false
  | _ => true

def path : Command → Text
  | .root => Command.root.name
  | .script shell => "commentdoc completion " ++ Text.ofString shell.name
  | c => "commentdoc " ++ Text.ofString c.name

def useLine (c : Command) : Text :=
  c.path ++
    match c with
    | .generate => " [flags] [pass...]"
    | .render => " [flags] <pass> <source>"
    | .help => " [command] [flags]"
    | .script _ => []
    | _ => " [flags]"

def summary : Command → Text
  | .root => "Generate markdown reference pages from source comments"
  | .completion => "Generate the autocompletion script for the specified shell"
  | .script shell => "Generate the autocompletion script for " ++ Text.ofString shell.name
  | .generate => "Render and write every configured page"
  | .help => "Help about any command"
  | .render => "Render one page from a source file to stdout"
  | .schema => "Print the JSON Schema of the manifest file"
  | .version => "Print version information"
  | .complete => "Request shell completion choices for the specified command-line"

def lines (ls : List String) : Text :=
  Text.join [Text.lf] (ls.map Text.ofString)

def description : Command → Text
  | .root =>
    lines
      ["commentdoc reads annotated source files (an enum of messages, a Lua",
       "configuration script and a set of documented functions) and writes one",
       "markdown page per documented surface."]
  | .generate =>
    lines
      ["Render the given passes, or every pass configured by the manifest, and",
       "write the resulting pages. Nothing is written unless every pass succeeds.",
       "",
       "Passes: "] ++ Text.join ", " (Pass.names.map Text.ofString)
  | .render =>
    lines
      ["Render one page of a pass from the given source file (\"-\" reads stdin)",
       "and print it. On a terminal the page is styled unless --raw is set."]
  | .help =>
    lines
      ["Help provides help for any command in the application.",
       "Simply type commentdoc help [path to command] for full details."]
  | .completion =>
    lines
      ["Generate the autocompletion script for commentdoc for the specified shell.",
       "See each sub-command's help for details on how to use the generated script."]
  | .script .bash =>
    lines
      ["Generate the autocompletion script for the bash shell.",
       "",
       "This script depends on the 'bash-completion' package.",
       "If it is not installed already, you can install it via your OS's package manager.",
       "",
       "To load completions in your current shell session:",
       "",
       "\tsource <(commentdoc completion bash)",
       "",
       "To load completions for every new session, execute once:",
       "",
       "#### Linux:",
       "",
       "\tcommentdoc completion bash > /etc/bash_completion.d/commentdoc",
       "",
       "#### macOS:",
       "",
       "\tcommentdoc completion bash > $(brew --prefix)/etc/bash_completion.d/commentdoc",
       "",
       "You will need to start a new shell for this setup to take effect."]
  | .script .zsh =>
    lines
      ["Generate the autocompletion script for the zsh shell.",
       "",
       "If shell completion is not already enabled in your environment you will need",
       "to enable it.  You can execute the following once:",
       "",
       "\techo \"autoload -U compinit; compinit\" >> ~/.zshrc",
       "",
       "To load completions in your current shell session:",
       "",
       "\tsource <(commentdoc completion zsh)",
       "",
       "To load completions for every new session, execute once:",
       "",
       "#### Linux:",
       "",
       "\tcommentdoc completion zsh > \"$\x7bfpath[1]\x7d/_commentdoc\"",
       "",
       "#### macOS:",
       "",
       "\tcommentdoc completion zsh > $(brew --prefix)/share/zsh/site-functions/_commentdoc",
       "",
       "You will need to start a new shell for this setup to take effect."]
  | .script .fish =>
    lines
      ["Generate the autocompletion script for the fish shell.",
       "",
       "To load completions in your current shell session:",
       "",
       "\tcommentdoc completion fish | source",
       "",
       "To load completions for every new session, execute once:",
       "",
       "\tcommentdoc completion fish > ~/.config/fish/completions/commentdoc.fish",
       "",
       "You will need to start a new shell for this setup to take effect."]
  | .script .powershell =>
    lines
      ["Generate the autocompletion script for powershell.",
       "",
       "To load completions in your current shell session:",
       "",
       "\tcommentdoc completion powershell | Out-String | Invoke-Expression",
       "",
       "To load completions for every new session, add the output of the above command",
       "to your powershell profile."]
  | c => c.summary

def targetFlag : Flag where
  name := "target"
  shorthand := some 't'.toUInt8
  initial := .text Target.general.name
  description := "configuration document to print, one of: " ++ listed (Target.all.map Target.name)
  candidates := some (.values (Target.all.map fun t => Text.ofString t.name))

def completed (complete : FlagSet → Except CompletionFault FlagSet) (fs : FlagSet) : FlagSet :=
  match complete fs with
  | .ok fs => fs
  | .error _ => fs

def sharedFlags : FlagSet :=
  let log : LogNames := {}
  let profile : ProfileNames := {}
  completed profile.completions (completed log.completions (log.flags ++ profile.flags))

def ownFlags : Command → FlagSet
  | .generate =>
    let names : GenerateNames := {}
    completed names.completions names.flags
  | .render =>
    [manifestFlag "manifest",
     targetFlag,
     { name := "raw", initial := .bool false, description := "print markdown without terminal styling" },
     { name := "width"
       shorthand := some 'w'.toUInt8
       initial := .number 0
       description := "word wrap width for styled output (default: terminal width)" }]
  | .script _ =>
    [{ name := "no-descriptions"
       initial := .bool false
       description := "disable completion descriptions" }]
  | _ => []

def helpFlag (c : Command) : Flag where
  name := "help"
  shorthand := some 'h'.toUInt8
  initial := .bool false
  description := "help for " ++ Text.ofString c.name

def flags (c : Command) : FlagSet :=
  c.helpFlag :: c.ownFlags ++ sharedFlags

end Command

end CommandLine

end Commentary

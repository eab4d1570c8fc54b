import Commentary.CommandLine.Command
import Commentary.Text.Blank

/-!
This module contains the help for a command.
-/

namespace Commentary

namespace CommandLine

namespace Command

def usage (c : Command) (own : FlagSet) : Text :=
  let listing (title : Text) (fs : FlagSet) : Text :=
    if fs = [] then [] else "\n\n" ++ title ++ ":\n" ++ Text.trimRight fs.usage
  let child (d : Command) : Text :=
    let name := Text.ofString d.name
    "\n  " ++ name ++ List.replicate (11 - name.length) ' '.toUInt8 ++ " " ++ d.summary
  let parts : List Text :=
    [Text.ofString "Usage:",
     if c.isRunnable then Text.ofString "\n  " ++ c.useLine else [],
     if c.children = [] then [] else Text.ofString "\n  " ++ c.path ++ " [command]",
     if c.children = [] then []
     else Text.ofString "\n\nAvailable Commands:" ++ c.listedChildren.flatMap child,
     if c = .root then listing "Flags" (own ++ sharedFlags)
     else listing "Flags" own ++ listing "Global Flags" sharedFlags,
     if c.children = [] then []
     else "\n\nUse \"" ++ c.path ++ " [command] --help\" for more information about a command.",
     Text.ofString "\n"]
  parts.flatten

def helpText (c : Command) : Text :=
  Text.trimRight c.description ++ "\n\n" ++ c.usage (c.helpFlag :: c.ownFlags)

def isPlain (t : Text) : Bool :=
  t.symbols.all fun
    | .stray _ => false
    | .char c => c ≠ '\ufeff' && c ≠ '\x7f' && c.toNat ≠ 96 && (c = '\t' || ' ' ≤ c)

def showTopic (t : Text) : Text :=
  if isPlain t then "`" ++ t ++ "`" else Text.quote t

def unknownTopic (topics : List Text) : Text :=
  "Unknown help topic [" ++ Text.join " " (topics.map showTopic) ++ "]\n" ++ Command.root.usage []

end Command

end CommandLine

end Commentary

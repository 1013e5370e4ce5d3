import StorageMetadata.Command.Run
import StorageMetadata.Text.Alphanumeric

/-!
# Arguments

The arguments name a command and a file; flags may stand among them:

    [-v] COMMAND [FLAGS] PATH.

Flags of the whole program come before the command, those of a command anywhere after it.  A flag
is a word after two dashes, or one or more letters after one dash; two dashes alone end the flags.
A flag that is not known is a misuse even where help is asked for; short of that, to ask for help
is enough.  Help is also what comes of no arguments at all, and of a mark where a command has to
stand, one that begins with neither a letter nor a digit.

This is one way to read arguments, for the program that is put around the commands.  What a command
does is said without it, for every command line (`run`).
-/

namespace StorageMetadata.Command

/-- What can be asked for by a flag. -/
inductive Flag where
  | verbose
  | url
  | help
  deriving DecidableEq, Repr

namespace Flag

/-- The word of a flag. -/
def word : Flag → String
  | .verbose => "--verbose"
  | .url => "--url"
  | .help => "--help"

/-- The letter of a flag, if it has one. -/
def letter? : Flag → Option Char
  | .verbose => some 'v'
  | .url => some 'u'
  | .help => none

/-- The flags in an argument; nothing if one of them is not known. -/
def ofArgument? (known : List Flag) (arg : String) : Option (List Flag) :=
  match arg.toList with
  | '-' :: '-' :: _ => (known.find? fun f => f.word = arg).map fun f => [f]
  | '-' :: letters => letters.mapM fun c => known.find? fun f => f.letter? = some c
  | _ => none

end Flag

/-- Is the argument a flag?  A dash alone is none. -/
def isFlag (arg : String) : Bool :=
  match arg.toList with
  | '-' :: _ :: _ => true
  | _ => false

/-- The flags at the front, and the arguments from the first one that is no flag. -/
def takeFlags (known : List Flag) : List String → Option (List Flag × List String)
  | [] => some ([], [])
  | arg :: rest =>
    if arg = "--" then some ([], rest)
    else if isFlag arg then do
      let flags ← Flag.ofArgument? known arg
      let (more, others) ← takeFlags known rest
      return (flags ++ more, others)
    else some ([], arg :: rest)

/-- All flags, and the other arguments in their order. -/
def splitFlags (known : List Flag) : List String → Option (List Flag × List String)
  | [] => some ([], [])
  | arg :: rest =>
    if arg = "--" then some ([], rest)
    else do
      let (more, others) ← splitFlags known rest
      if isFlag arg then return ((← Flag.ofArgument? known arg) ++ more, others)
      else return (more, arg :: others)

namespace Line

/-- The arguments of a command that takes one path.  A path that nothing can be found at, because
it holds a null character, is tried before it is a misuse that more arguments follow it. -/
def ofCommand (known : List Flag) (verbose : Bool) (subject : List Flag → Subject)
    (args : List String) : Line :=
  match splitFlags known args with
  | none => .misuse
  | some (flags, others) =>
    if .help ∈ flags then .help
    else match others with
      | [] => .misuse
      | path :: more =>
        if more = [] ∨ '\x00' ∈ path.toList then .inspect verbose (subject flags) path
        else .misuse

/-- Is the argument a mark, so that it cannot have been meant for a command? -/
def isMark (arg : String) : Bool := arg.toList.head?.any fun c => !Text.isAlphanumeric c

/-- The arguments of the program. -/
def ofArguments (args : List String) : Line :=
  if args = [] then .help
  else match takeFlags [.verbose, .help] args with
    | none => .misuse
    | some (flags, others) =>
      let verbose := decide (.verbose ∈ flags)
      if .help ∈ flags then .help
      else match others with
        | "blob" :: rest =>
          ofCommand [.url, .help] verbose (fun fs => .object (decide (.url ∈ fs))) rest
        | "cors" :: rest => ofCommand [.help] verbose (fun _ => .rules) rest
        | other :: _ => if isMark other then .help else .misuse
        | [] => .misuse

end Line

end StorageMetadata.Command

/-!
# The demo's arguments

The demo takes the path of its configuration in `--config FILE` or `-c FILE`, exactly once, and
`--help` or `-h`.  Arguments are read from the first to the last, and the first one that is out of
place or that asks for help decides.
-/

namespace ChannelBinding

/-- What the arguments ask for. -/
inductive Invocation where
  | run (path : String)
  | help
  | misuse
deriving DecidableEq, Repr

namespace Invocation

/-- What an argument is. -/
inductive Argument where
  /-- The path of the configuration. -/
  | config (path : String)
  /-- The option whose value is the next argument. -/
  | configNext
  | help
  /-- The end of the options. -/
  | endOfOptions
  | unexpected
deriving DecidableEq, Repr

/-- A short option's value, of which an equals sign at the front is no part. -/
def attachedValue : List Char → List Char
  | '=' :: cs => cs
  | cs => cs

/-- What an argument in the place of an option is. -/
def classify (a : String) : Argument :=
  match a.toList with
  | ['-', '-'] => .endOfOptions
  | '-' :: '-' :: name =>
    if name = "help".toList then .help
    else if name = "config".toList then .configNext
    else if "config=".toList.isPrefixOf name then .config (String.ofList (name.drop 7))
    else .unexpected
  | '-' :: 'h' :: _ => .help
  | ['-', 'c'] => .configNext
  | '-' :: 'c' :: value => .config (String.ofList (attachedValue value))
  | _ => .unexpected

/-- Whether an argument can be the value of the option before it. -/
def isValue (a : String) : Bool :=
  match a.toList with
  | '-' :: _ :: _ => false
  | _ => true

/-- Reads arguments, given the path read before them. -/
def read (path : Option String) : List String → Invocation
  | [] =>
    match path with
    | some path => .run path
    | none => .misuse
  | a :: rest =>
    match classify a with
    | .help => .help
    | .unexpected => .misuse
    | .endOfOptions =>
      match rest, path with
      | [], some path => .run path
      | _, _ => .misuse
    | .config value => if path.isSome then .misuse else read (some value) rest
    | .configNext =>
      match rest with
      | [] => .misuse
      | value :: rest =>
        if isValue value && path.isNone then read (some value) rest else .misuse

/-- What the arguments ask for. -/
def ofArguments (args : List String) : Invocation := read none args

end Invocation

end ChannelBinding

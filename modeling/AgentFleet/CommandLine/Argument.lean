/-!
# Arguments

Arguments are read from left to right, and the first thing that is wrong, or
that asks for the version or for help, decides.  An option has a long name and
perhaps a letter; its value may be joined to it or be the next argument, but
then may not look like an option itself.  A value that is an argument of its own
is looked at only when the next option is read or when nothing more comes, so
what a command makes of the arguments behind its name counts before the value of
the last option in front of it.
-/

namespace AgentFleet
namespace CommandLine

/-- An option of a command. -/
inductive Flag where
  | logFormat
  | settings
  | request
  | serverId
  | failLaunch
  | rejectCapacity
  | version
  | help
deriving DecidableEq, Repr

namespace Flag

/-- The long name of an option. -/
def long : Flag → String
  | .logFormat => "log-format"
  | .settings => "settings"
  | .request => "request"
  | .serverId => "server-id"
  | .failLaunch => "fail-launch"
  | .rejectCapacity => "reject-capacity"
  | .version => "version"
  | .help => "help"

/-- The one-letter name of an option, if it has one. -/
def short? : Flag → Option Char
  | .settings => some 's'
  | .request => some 'r'
  | .version => some 'V'
  | .help => some 'h'
  | _ => none

/-- The option is followed by a value. -/
def takesValue : Flag → Bool
  | .logFormat | .settings | .request | .serverId => true
  | _ => false

/-- A value that the option can have. -/
def allows : Flag → String → Bool
  | .logFormat, v => v == "text" || v == "json"
  | .settings, v | .request, v => !v.isEmpty
  | _, _ => true

end Flag

/-- Why reading arguments came to an end before the last one. -/
inductive Stop where
  /-- The arguments make no sense. -/
  | misuse
  | version
  | help
deriving DecidableEq, Repr

/-- The options that were given, each with its value if it takes one. -/
abbrev Given := List (Flag × String)

namespace Given

/-- The value of an option. -/
def get? (g : Given) (f : Flag) : Option String :=
  List.lookup f g

/-- The option was given. -/
def has (g : Given) (f : Flag) : Bool :=
  (g.get? f).isSome

/-- Note an option; none may be given twice. -/
def note (g : Given) (f : Flag) (value : String) : Except Stop Given :=
  match f with
  | .version => .error .version
  | .help => .error .help
  | _ =>
    if g.has f || !f.allows value then .error .misuse else .ok ((f, value) :: g)

end Given

/-- What was read before the first argument that is no option. -/
structure Options where
  given : Given := []
  /-- The last option, if its value has not been looked at yet. -/
  pending : Option (Flag × String) := none

/-- All options, now that the value of the last one is looked at. -/
def Options.settled (o : Options) : Except Stop Given :=
  match o.pending with
  | none => .ok o.given
  | some (f, value) => o.given.note f value

/-- An argument taken apart. -/
inductive Argument where
  /-- Two dashes: no options follow. -/
  | separator
  /-- An option by name, and a value joined to it. -/
  | option (name : String ⊕ Char) (joined : Option String)
  | positional

namespace Argument

/-- Take an argument apart.  A single dash is no option. -/
def ofString (s : String) : Argument :=
  match s.toList with
  | ['-', '-'] => .separator
  | '-' :: '-' :: cs =>
    let name := .inl (String.ofList (cs.takeWhile (· != '=')))
    match cs.dropWhile (· != '=') with
    | [] => .option name none
    | _ :: value => .option name (some (String.ofList value))
  | ['-'] => .positional
  | ['-', c] => .option (.inr c) none
  | '-' :: c :: '=' :: value => .option (.inr c) (some (String.ofList value))
  | '-' :: c :: value => .option (.inr c) (some (String.ofList value))
  | _ => .positional

/-- The argument can be the value of the option before it. -/
def isValue (s : String) : Bool :=
  match ofString s with
  | .positional => true
  | _ => false

end Argument

/-- The option of that name among those of a command. -/
def findFlag? (known : List Flag) : String ⊕ Char → Option Flag
  | .inl name => known.find? (·.long == name)
  | .inr c => known.find? (·.short? == some c)

/-- Read options up to the first argument that is none; it and what follows are
left. -/
def readOptions (known : List Flag) (o : Options) :
    List String → Except Stop (Options × List String)
  | [] => .ok (o, [])
  | arg :: rest =>
    match Argument.ofString arg with
    | .separator => if rest.isEmpty then .ok (o, []) else .error .misuse
    | .positional => .ok (o, arg :: rest)
    | .option name joined =>
      match findFlag? known name with
      | none => .error .misuse
      | some f =>
        if !f.takesValue && joined.isSome && name.isLeft then .error .misuse
        else
          match o.settled with
          | .error stop => .error stop
          | .ok given =>
            if f.takesValue && joined.isNone then
              match rest with
              | [] => .error .misuse
              | value :: more =>
                if Argument.isValue value then
                  readOptions known ⟨given, some (f, value)⟩ more
                else .error .misuse
            else
              match given.note f (joined.getD "") with
              | .error stop => .error stop
              | .ok given => readOptions known ⟨given, none⟩ rest

end CommandLine
end AgentFleet

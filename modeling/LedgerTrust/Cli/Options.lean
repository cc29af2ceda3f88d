import LedgerTrust.Data.Bytes

/-!
# Options

A command takes options, each with a long name and given at most once: a switch, or an option
with a value, which stands after an equals sign or is the next argument. A next argument that
starts with a dash is no value, unless it is the dash alone; two dashes alone end the options,
and nothing may follow them. `readOptions` reads options up to the name of a command. An option
for help stops the reading, unless something before it is wrong; the value in an argument of its
own is looked at only once the argument after it is read.
-/

namespace LedgerTrust.Cli

/-- Why there is no command to run. -/
inductive Stop where
  | help
  | misuse
  deriving DecidableEq, Repr

/-- What an option takes. -/
inductive Operand where
  | none
  | text
  /-- A text that is not empty. -/
  | path
  /-- A number below `2 ^ 64`. -/
  | number
  deriving DecidableEq, Repr

/-- An option with its long name. -/
structure Opt where
  name : String
  operand : Operand
  deriving DecidableEq, Repr

/-- The number that decimal digits stand for, perhaps after a plus sign. -/
def number? (t : String) : Option UInt64 := do
  let digits := match t.toList with | '+' :: r => r | l => l
  if digits.isEmpty ∨ !digits.all Char.isDigit then none
  else
    let n := digits.foldl (fun n c => 10 * n + (c.toNat - 0x30)) 0
    if n < UInt64.size then return UInt64.ofNat n else none

/-- Whether a text can be the value of an option. -/
def Operand.accepts : Operand → String → Bool
  | .none, _ => false
  | .text, _ => true
  | .path, t => !t.isEmpty
  | .number, t => (number? t).isSome

/-- Options that were given, with their values. -/
abbrev Given := List (String × String)

namespace Given

/-- Whether an option was given. -/
def has (g : Given) (name : String) : Bool := g.any (·.1 = name)

/-- The value of an option that was given. -/
def value? (g : Given) (name : String) : Option String := (g.find? (·.1 = name)).map (·.2)

/-- The number that is the value of an option that was given. -/
def number? (g : Given) (name : String) : Option UInt64 := (g.value? name).bind Cli.number?

/-- The options with one more, which may not be given twice. -/
def add (g : Given) (name value : String) : Except Stop Given :=
  if g.has name then .error .misuse else .ok (g ++ [(name, value)])

/-- The options with one more and its value. -/
def addValue (g : Given) (o : Opt) (value : String) : Except Stop Given :=
  if o.operand.accepts value then g.add o.name value else .error .misuse

/-- The options with one more, if there is one, whose value was not looked at yet. -/
def settle (g : Given) : Option (Opt × String) → Except Stop Given
  | none => .ok g
  | some (o, value) => g.addValue o value

end Given

/-- What was read of some arguments. -/
structure Read where
  given : Given
  /-- A last option whose value was not looked at yet. -/
  pending : Option (Opt × String)
  /-- The name of a command and the arguments after it. -/
  command : Option (String × List String)
  deriving DecidableEq, Repr

/-- The parts of a text before and after the first equals sign. -/
def splitAtEquals (t : List Char) : String × Option String :=
  (String.ofList (t.takeWhile (· != '=')),
    match t.dropWhile (· != '=') with
    | _ :: r => some (String.ofList r)
    | [] => none)

/-- An argument by its form. -/
inductive Argument where
  /-- Two dashes alone. -/
  | endOfOptions
  | long (name : String) (value : Option String)
  | short (first : Char)
  | plain (text : String)
  deriving DecidableEq, Repr

/-- The form of an argument. -/
def Argument.ofText (t : String) : Argument :=
  match t.toList with
  | ['-', '-'] => .endOfOptions
  | '-' :: '-' :: r => .long (splitAtEquals r).1 (splitAtEquals r).2
  | '-' :: c :: _ => .short c
  | _ => .plain t

/-- The options that arguments give, up to the name of a command. -/
def readOptions (options : List Opt) (commands : List String) (g : Given)
    (pending : Option (Opt × String)) : List String → Except Stop Read
  | [] => .ok ⟨g, pending, none⟩
  | t :: r =>
    match Argument.ofText t with
    | .endOfOptions => if r.isEmpty then .ok ⟨g, pending, none⟩ else .error .misuse
    | .plain t => if t ∈ commands then .ok ⟨g, pending, some (t, r)⟩ else .error .misuse
    | .short c => do
      let _ ← g.settle pending
      .error (if c = 'h' then .help else .misuse)
    | .long "help" value => do
      let _ ← g.settle pending
      .error (if value.isNone then .help else .misuse)
    | .long name value => do
      let g ← g.settle pending
      match options.find? (·.name = name) with
      | none => .error .misuse
      | some o =>
        match o.operand, value with
        | .none, some _ => .error .misuse
        | .none, none => readOptions options commands (← g.add name "") none r
        | _, some value => readOptions options commands (← g.addValue o value) none r
        | _, none =>
          match r with
          | [] => .error .misuse
          | next :: r =>
            match Argument.ofText next with
            | .plain value => readOptions options commands g (some (o, value)) r
            | _ => .error .misuse

end LedgerTrust.Cli

import ExpectedDamage.Number.WrittenWhole
import ExpectedDamage.Record.Scalar
/-!
# Words of a command line

A command line is a row of words. A word that begins with a dash and goes on holds
switches, any other word is an operand, and after a bare double dash all words are
operands. `readWords` knows the switches of a command but not what their texts mean,
which is asked of the `Arguments` afterwards; so a fault of the words themselves
comes before any fault of a text.
-/

namespace ExpectedDamage.CommandLine

/-- Why words give no command to be run. -/
inductive NoCommand where
  /-- The words ask for help instead. -/
  | helpWanted
  | unknownCommand
  | missingCommand
  | unknownSwitch
  /-- A switch lacks its text. -/
  | missingText
  /-- A switch that takes no text has one. -/
  | unexpectedText
  | missingOption
  | missingOperand
  | extraOperand
  | unreadableNumber
  | outOfRange
  deriving DecidableEq, Repr

/-- What a switch does to its option. -/
inductive SwitchKind where
  /-- The next word is the text of the option. -/
  | text
  /-- The option is on or off. -/
  | flag (isOn : Bool)
  deriving DecidableEq, Repr

/-- A switch of a command, named after two dashes, and perhaps by a letter after one. -/
structure Switch where
  option : String
  name : String
  letter : Option Char := none
  kind : SwitchKind := .text
  deriving DecidableEq, Repr

/-- What a switch says about its option. -/
inductive Setting where
  | text (option text : String)
  | flag (option : String) (isOn : Bool)
  deriving DecidableEq, Repr

/-- The meaning of a word of switches: what it settles, and the option that takes the
next word as its text. -/
structure SwitchWord where
  settings : List Setting
  waiting : Option String
  deriving DecidableEq, Repr

/-- The meaning of a switch, with the text that is attached to it. -/
def Switch.meaning (s : Switch) (attached : Option String) : Except NoCommand SwitchWord :=
  match s.kind, attached with
  | .text, some text => .ok ⟨[.text s.option text], none⟩
  | .text, none => .ok ⟨[], some s.option⟩
  | .flag isOn, none => .ok ⟨[.flag s.option isOn], none⟩
  | .flag _, some _ => .error .unexpectedText

/-- The meaning of a cluster of letters. A letter that takes a text takes the rest of the
cluster. -/
def readCluster (switches : List Switch) : List Char → Except NoCommand SwitchWord
  | [] => .ok ⟨[], none⟩
  | letter :: rest =>
    match switches.find? (·.letter == some letter) with
    | none => .error .unknownSwitch
    | some s =>
      match s.kind with
      | .text => s.meaning (if rest.isEmpty then none else some (String.ofList rest))
      | .flag isOn => do
        let others ← readCluster switches rest
        return { others with settings := .flag s.option isOn :: others.settings }

/-- The meaning of a word of switches: one name, with a text after an equals sign or
without, or a cluster of letters. -/
def readSwitches (switches : List Switch) (word : List Char) : Except NoCommand SwitchWord :=
  let (name, after) := word.span (· ≠ '=')
  match switches.find? (·.name.toList == name) with
  | some s => s.meaning (after.tail?.map String.ofList)
  | none =>
    match word with
    | '-' :: '-' :: _ => .error .unknownSwitch
    | _ => readCluster switches (word.drop 1)

def isSwitchWord (word : List Char) : Bool := word.head? == some '-' && 1 < word.length

/-- What a row of words gives. -/
structure Arguments where
  settings : List Setting := []
  operands : List String := []
  deriving DecidableEq, Repr

/-- The arguments in a row of words, of which the first is the text of an option if one
is waiting. If switches and operands are not mixed, all words from the first operand on
are operands. -/
def readFrom (switches : List Switch) (mixed : Bool) (waiting : Option String) :
    List String → Except NoCommand Arguments
  | [] => if waiting.isSome then .error .missingText else .ok {}
  | word :: rest =>
    match waiting with
    | some option => do
      let others ← readFrom switches mixed none rest
      return { others with settings := .text option word :: others.settings }
    | none =>
      if word = "--" then .ok { operands := rest }
      else if isSwitchWord word.toList then do
        let meaning ← readSwitches switches word.toList
        let others ← readFrom switches mixed meaning.waiting rest
        return { others with settings := meaning.settings ++ others.settings }
      else if mixed then do
        let others ← readFrom switches mixed none rest
        return { others with operands := word :: others.operands }
      else .ok { operands := word :: rest }

def helpSwitch : Switch := ⟨"help", "--help", none, .flag true⟩

namespace Arguments

def last? {α : Type} (find : Setting → Option α) (a : Arguments) : Option α :=
  a.settings.reverse.findSome? find

def text? (a : Arguments) (option : String) : Option String :=
  a.last? fun
    | .text o text => if o = option then some text else none
    | .flag .. => none

/-- Whether an option is on, if a switch says so or the contrary. -/
def flag? (a : Arguments) (option : String) : Option Bool :=
  a.last? fun
    | .flag o isOn => if o = option then some isOn else none
    | .text .. => none

def isOn (a : Arguments) (option : String) : Bool := a.flag? option == some true

/-- The whole number that is the text of an option, if it is given. It is read like one of
a record. -/
def number? (a : Arguments) (option : String) : Except NoCommand (Option Int) :=
  match a.text? option with
  | none => .ok none
  | some text =>
    match WrittenWhole.generous text.toList with
    | .ok n => .ok (some n)
    | .error _ => .error .unreadableNumber

/-- The only operand. -/
def operand (a : Arguments) : Except NoCommand String :=
  match a.operands with
  | [] => .error .missingOperand
  | [word] => .ok word
  | _ => .error .extraOperand

end Arguments

/-- What must be given. -/
def required {α : Type} : Option α → Except NoCommand α
  | some a => .ok a
  | none => .error .missingOption

/-- The arguments in a row of words, unless they ask for help. -/
def readWords (switches : List Switch) (mixed : Bool) (words : List String) :
    Except NoCommand Arguments := do
  let a ← readFrom (helpSwitch :: switches) mixed none words
  if a.isOn "help" then throw .helpWanted else return a

end ExpectedDamage.CommandLine

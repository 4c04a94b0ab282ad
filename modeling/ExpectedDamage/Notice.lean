/-!
# Notices

Remarks that a calculation makes beside its result. They never influence it: each
calculation is a plain function, and its notices are a second function of the
same arguments.
-/

namespace ExpectedDamage

/-- How much a notice matters, in rising order. -/
inductive NoticeLevel where
  | debug
  | info
  | warning
  | error
  deriving DecidableEq, Repr

namespace NoticeLevel

def rank : NoticeLevel → Nat
  | debug => 10
  | info => 20
  | warning => 30
  | error => 40

def name : NoticeLevel → String
  | debug => "DEBUG"
  | info => "INFO"
  | warning => "WARNING"
  | error => "ERROR"

/-- The level with a name, which is spelled in capitals. -/
def ofName? (name : String) : Option NoticeLevel :=
  [debug, info, warning, error].find? (·.name == name)

end NoticeLevel

/-- A remark made beside a result. -/
structure Notice where
  level : NoticeLevel
  message : String
  deriving DecidableEq, Repr

end ExpectedDamage

import LocoSounds.Journal

/-! Where the journal is written while the program runs, and which events are. -/

namespace LocoSounds

/-- The number of a level, by which levels are compared. -/
def Level.number : Level → Nat
  | .debug => 10
  | .info => 20
  | .warning => 30
  | .error => 40

/-- What is done with events: those of a lower number are dropped. -/
structure JournalOutput where
  threshold : Nat
  writers : Nat
  /-- Events go to the outputs of the surrounding program as well. -/
  passedOn : Bool
  deriving DecidableEq

/-- Why a name is no level. -/
inductive LevelFault where
  /-- The name stands for a text. -/
  | text (value : String)
  /-- The name stands for something that is no level at all. -/
  | other
  deriving DecidableEq

/-- The wording of a level fault. -/
def LevelFault.message : LevelFault → String
  | .text value => "Unknown level: " ++ quoted value
  | .other => "A level is a number or a name"

/-- The upper-case form of a character as far as it has letters of level names.
No other character's upper-case form has such letters only. -/
def levelLetters (c : Char) : List Char :=
  match c with
  | 'ß' => ['S', 'S']
  | 'ı' => ['I']
  | 'ſ' => ['S']
  | 'ﬀ' => ['F', 'F']
  | 'ﬁ' => ['F', 'I']
  | 'ﬂ' => ['F', 'L']
  | 'ﬃ' => ['F', 'F', 'I']
  | 'ﬄ' => ['F', 'F', 'L']
  | 'ﬅ' => ['S', 'T']
  | 'ﬆ' => ['S', 'T']
  | c => [c.toUpper]

/-- The numbers of the named levels. -/
def levelNumbers : List (String × Nat) :=
  [("CRITICAL", 50), ("FATAL", 50), ("ERROR", 40), ("WARNING", 30), ("WARN", 30), ("INFO", 20),
    ("DEBUG", 10), ("NOTSET", 0)]

/-- The number that a level's name stands for in any case. Unknown names stand for the level of plain
information, but two names are taken by things that are no levels. -/
def levelNumber (name : String) : Except LevelFault Nat :=
  let name := String.ofList (name.toList.flatMap levelLetters)
  if name = "BASIC_FORMAT" then .error (.text "%(levelname)s:%(name)s:%(message)s")
  else if name = "_STYLES" then .error .other
  else .ok ((levelNumbers.lookup name).getD Level.info.number)

namespace JournalOutput

/-- Nothing is written, all is left to the surrounding program. -/
def start : JournalOutput := ⟨0, 0, true⟩

/-- Writes events from a level of a name on. The first writer takes the events over. -/
def configure (output : JournalOutput) (name : String) : Except LevelFault JournalOutput :=
  (levelNumber name).map fun threshold =>
    if output.writers = 0 then ⟨threshold, 1, false⟩ else { output with threshold }

end JournalOutput

end LocoSounds

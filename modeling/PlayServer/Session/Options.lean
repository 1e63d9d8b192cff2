/-!
# Session ids, options and refusals

A session has an id, a difficulty and a mode. Difficulties are ordered from the easiest to the
hardest. `SessionError` lists why a session operation is refused, with the wording of each
refusal and the status byte that tells a client of it.
-/

namespace PlayServer

/-- Names a session. The id 0 on the wire stands for any session. -/
structure SessionId where
  value : UInt32
  deriving DecidableEq, Repr, Inhabited

/-- The text of a session id. -/
def SessionId.print (id : SessionId) : String := s!"session-{id.value.toNat}"

/-- How hard a session is, from the easiest to the hardest. -/
inductive Difficulty where
  | normal
  | hard
  | expert
  | master
  | torment1
  | torment2
  | torment3
  | torment4
  | torment5
  | torment6
  deriving DecidableEq, Repr, Inhabited

/-- What is played in a session. -/
inductive GameMode where
  | campaign
  | adventure
  | rift
  | greaterRift
  deriving DecidableEq, Repr, Inhabited

/-- Why a session operation is refused. -/
inductive SessionError where
  | full (max : Nat)
  | alreadyMember
  | inAnotherSession (id : SessionId)
  | notFound (id : SessionId)
  | notMember
  | notHost
  | tooManySessions (max : Nat)
  | invalidDifficulty (value : UInt8)
  | invalidMode (value : UInt8)
  deriving DecidableEq, Repr

namespace Difficulty

/-- All difficulties in order. -/
def all : List Difficulty :=
  [normal, hard, expert, master, torment1, torment2, torment3, torment4, torment5, torment6]

/-- The byte of a difficulty on the wire: its place in the order. -/
def byte : Difficulty → UInt8
  | normal => 0
  | hard => 1
  | expert => 2
  | master => 3
  | torment1 => 4
  | torment2 => 5
  | torment3 => 6
  | torment4 => 7
  | torment5 => 8
  | torment6 => 9

/-- The name of a difficulty. -/
def name : Difficulty → String
  | normal => "Normal"
  | hard => "Hard"
  | expert => "Expert"
  | master => "Master"
  | torment1 => "Torment1"
  | torment2 => "Torment2"
  | torment3 => "Torment3"
  | torment4 => "Torment4"
  | torment5 => "Torment5"
  | torment6 => "Torment6"

/-- The difficulty a byte stands for. -/
def ofByte (value : UInt8) : Except SessionError Difficulty :=
  match all[value.toNat]? with
  | some d => .ok d
  | none => .error (.invalidDifficulty value)

instance : Ord Difficulty := ⟨fun a b => compare a.byte b.byte⟩

end Difficulty

namespace GameMode

/-- All modes in the order of their bytes. -/
def all : List GameMode := [campaign, adventure, rift, greaterRift]

/-- The byte of a mode on the wire. -/
def byte : GameMode → UInt8
  | campaign => 0
  | adventure => 1
  | rift => 2
  | greaterRift => 3

/-- The name of a mode. -/
def name : GameMode → String
  | campaign => "Campaign"
  | adventure => "Adventure"
  | rift => "Rift"
  | greaterRift => "GreaterRift"

/-- The mode a byte stands for. -/
def ofByte (value : UInt8) : Except SessionError GameMode :=
  match all[value.toNat]? with
  | some m => .ok m
  | none => .error (.invalidMode value)

end GameMode

/-- The difficulty and the mode of a session. A new session has the first of each unless it is
told otherwise. -/
structure SessionOptions where
  difficulty : Difficulty := .normal
  mode : GameMode := .campaign
  deriving DecidableEq, Repr, Inhabited

namespace SessionError

/-- The wording of a refusal. -/
def message : SessionError → String
  | full max => s!"Session is full ({max} players)"
  | alreadyMember => "Already a member of this session"
  | inAnotherSession id => "Already in " ++ id.print
  | notFound id => id.print ++ " not found"
  | notMember => "Not in a session"
  | notHost => "Only the session host may do that"
  | tooManySessions max => s!"Too many sessions (max {max})"
  | invalidDifficulty value => s!"Invalid difficulty {value.toNat}"
  | invalidMode value => s!"Invalid game mode {value.toNat}"

/-- The byte that tells a client of a refusal; 0 would mean success. -/
def status : SessionError → UInt8
  | full _ => 1
  | notFound _ => 2
  | alreadyMember | inAnotherSession _ => 3
  | tooManySessions _ => 4
  | notMember => 5
  | notHost => 6
  | invalidDifficulty _ | invalidMode _ => 7

/-- No refusal reads as success. -/
theorem status_ne_zero (e : SessionError) : e.status ≠ 0 := by
  cases e <;> simp [status]

end SessionError

end PlayServer

import AggregateRouting.Source.Fault
import AggregateRouting.Source.Listed

/-! # Readers

A reader goes through the tokens of a source text and writes what it reads, which need not be in the
form or in the order that it has there. Main statement: running a reader leaves no token unread. -/

namespace AggregateRouting.Source

structure Progress where
  rest : List Token
  /-- What has been written, the last token first. -/
  written : List Token := []
  /-- The first group that was left before its end. -/
  left? : Option Bracket := none

abbrev Reader := StateT Progress (Except Fault)

namespace Reader
variable {α : Type}

/-! ### Looking ahead -/

def after (count : Nat) : Reader (List Token) := do
  return Nat.repeat Token.afterTree count (← get).rest

def sees (e : Expected) (after : Nat := 0) : Reader Bool := do
  return (e.extent? (← Reader.after after)).isSome

def seesAny (es : List Expected) (after : Nat := 0) : Reader Bool := do
  let ts ← Reader.after after
  return es.any fun e => (e.extent? ts).isSome

def seesWord : Reader Bool := do
  match (← get).rest with
  | .word _ :: _ => return true
  | _ => return false

def atEnd : Reader Bool := do
  match (← get).rest with
  | [] | .closing _ :: _ => return true
  | _ => return false

def endsBefore (es : List Expected) : Reader Bool := do
  return (← atEnd) || (← seesAny es)

/-- What a reader would make of the tokens ahead, and how far it would get. -/
def ahead (r : Reader α) : Reader (Option (α × Progress)) := do
  return (r.run (← get)).toOption

/-! ### Faults -/

/-- A fault at the next token, or at the end if there is none. -/
def fail (c : Cause) : Reader α := do
  throw ⟨c, ← atEnd⟩

/-- A fault that does not depend on where it is noticed. -/
def refuse (c : Cause) : Reader α :=
  throw ⟨c, false⟩

def miss (e : Expected) : Reader α :=
  if e.isMark then refuse (.expected [e]) else fail (.expected [e])

/-! ### Reading and writing -/

def write (ts : List Token) : Reader Unit :=
  modify fun s => { s with written := ts.reverse ++ s.written }

/-- Goes past the next tokens without writing them. -/
def skip (count : Nat) : Reader Unit :=
  modify fun s => { s with rest := s.rest.drop count }

def take (count : Nat := 1) : Reader Unit := do
  write ((← get).rest.take count)
  skip count

def accept (e : Expected) : Reader Bool := do
  match e.extent? (← get).rest with
  | some count => take count; return true
  | none => return false

def expect (e : Expected) : Reader Unit := do
  unless ← accept e do miss e

def word : Reader String := do
  match (← get).rest with
  | .word w :: _ => take; return w
  | _ => fail (.expected [.identifier])

def name : Reader String := do
  match (← get).rest with
  | .word w :: _ =>
    if Keyword.holds w then fail (.keyword w)
    take
    return w
  | _ => fail (.expected [.identifier])

def choose (alternatives : List (Expected × Reader α)) : Reader α := do
  let ts := (← get).rest
  match alternatives.find? fun (e, _) => (e.extent? ts).isSome with
  | some (_, r) => r
  | none => fail (.expected (alternatives.map (·.1)))

/-- What a reader writes, which is not written yet. -/
def collect (r : Reader α) : Reader (α × List Token) := do
  let written := (← get).written
  modify ({ · with written := [] })
  let a ← r
  let ts := (← get).written.reverse
  modify ({ · with written := written })
  return (a, ts)

/-- Writes the tokens that a reader goes through as they are, if it says so. -/
def verbatimIf (r : Reader (α × Bool)) : Reader α := do
  let start := (← get).rest
  let ((a, verbatim), ts) ← collect r
  let count := start.length - (← get).rest.length
  write (if verbatim then start.take count else ts)
  return a

/-! ### Repetition -/

/-- Repeats a step from state to state, until there is no next one. A step has to go past some
token, so there are no more of them than tokens. -/
def iterate (step : α → Reader (Option α)) : Nat → α → Reader α
  | 0, a => return a
  | count + 1, a => do
    match ← step a with
    | some a => iterate step count a
    | none => return a

def loop (step : α → Reader (Option α)) (a : α) : Reader α := do
  iterate step ((← get).rest.length + 1) a

def repeatedly (step : Reader Bool) : Reader Unit :=
  loop (fun _ => return if ← step then some () else none) ()

/-- The next elements of a list with commas, of which there are no more than `count`. -/
def elements (ends : Reader Bool) (element : Reader α) :
    (count : Nat) → Reader (List (Listed α))
  | 0 => return []
  | count + 1 => do
    if ← ends then return []
    let a ← element
    if ← ends then return [⟨a, false⟩]
    expect ","
    return ⟨a, true⟩ :: (← elements ends element count)

def listed (ends : Reader Bool) (element : Reader α) : Reader (List (Listed α)) := do
  elements ends element ((← get).rest.length + 1)

def listedFirst (p : α → Bool) (ends : Reader Bool) (element : Reader α) :
    Reader (List (Listed α)) := do
  let (es, _) ← collect (listed ends (collect element))
  let es := Listed.first (p ·.1) es
  write (Listed.joined (.mark ',') (es.map (·.map (·.2))))
  return es.map (·.map (·.1))

/-! ### Groups -/

/-- Leaves a group. That some of it has not been read is a fault unless there is another one. -/
def leave (b : Bracket) : Reader Unit := do
  unless ← atEnd do modify fun s => { s with left? := s.left?.or (some b) }
  modify fun s => { s with rest := Token.afterEnd 0 s.rest }
  write [.closing b]

def inside (b : Bracket) (r : Reader α) : Reader α := do
  expect b
  let a ← r
  leave b
  return a

def listedInside (b : Bracket) (element : Reader α) : Reader (List α) :=
  inside b do return (← listed atEnd element).map (·.value)

def tree : Reader Unit := do
  let ts := (← get).rest
  take (ts.length - (Token.afterTree ts).length)

def anyGroup : Reader Bracket := do
  match (← get).rest with
  | .opening b :: _ => tree; return b
  | _ => fail .expectedGroup

/-! ### Whole texts -/

def runOn (r : Reader α) (ts : List Token) : Except Fault α := do
  let (a, s) ← r.run { rest := ts }
  match s.left?, s.rest with
  | none, [] => return a
  | left?, _ => throw ⟨.unexpected left?, false⟩

/-- A text is only read if all of it is. -/
theorem rest_eq_nil_of_runOn {r : Reader α} {ts : List Token} {a : α}
    (h : r.runOn ts = .ok a) : ∃ s, r.run { rest := ts } = .ok (a, s) ∧ s.rest = [] := by
  unfold runOn at h
  cases hr : r.run { rest := ts } with
  | error f => simp [hr, bind, Except.bind] at h
  | ok p =>
    obtain ⟨b, s⟩ := p
    simp only [hr, bind, Except.bind] at h
    split at h
    · next hs => cases h; exact ⟨s, rfl, hs⟩
    · cases h

end Reader
end AggregateRouting.Source

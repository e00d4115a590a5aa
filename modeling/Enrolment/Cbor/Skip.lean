import Enrolment.Cbor.Reader

/-!
# Enrolment.Cbor.Skip

Passing over one item of any type, with everything inside it, without building it. `Pending` counts
what is still owed: items of containers of definite length in `items`, open containers of
indefinite length in `breaks`, and, once a container of indefinite length has been opened below
others, the counts of those others on a stack. An item of definite length only ever adds to
`items`, so without indefinite lengths the loop is a single counter.
-/

namespace Enrolment.Cbor

/-- What is still owed before the item that is being passed over is complete. -/
structure Pending where
  /-- Items owed to containers of definite length. -/
  items : Nat
  /-- Containers of indefinite length that wait for their break. -/
  breaks : Nat
  /-- Counts that wait, the innermost first: none for a container of indefinite length. -/
  waiting : List (Option Nat)
  deriving DecidableEq, Repr

namespace Pending

def one : Pending := ⟨1, 0, []⟩

/-- The greatest count; counting further stops there. -/
def maxCount : Nat := 0xffffffffffffffff

/-- Whether only waiting counts are left. -/
def isIdle (p : Pending) : Bool := p.items == 0 && p.breaks == 0

def isDone (p : Pending) : Bool := p.isIdle && p.waiting.isEmpty

def openDefinite (p : Pending) (n : Nat) : Pending :=
  if n = 0 then p
  else if p.isIdle then { p with waiting := some n :: p.waiting }
  else { p with items := min (p.items + n) maxCount }

def openIndefinite (p : Pending) : Pending :=
  if p.isIdle then { p with waiting := none :: p.waiting }
  else if p.items < 2 then { p with breaks := p.breaks + 1 }
  else ⟨0, 0, none :: some (p.items - 1) :: (List.replicate p.breaks none ++ p.waiting)⟩

def close (p : Pending) : Pending :=
  if p.isIdle then match p.waiting with
    | none :: rest => { p with waiting := rest }
    | _ => p
  else { p with breaks := p.breaks - 1 }

/-- Ends a round: one item fewer is owed. -/
def endRound (p : Pending) : Pending :=
  if p.isIdle then match p.waiting.dropWhile (· == some 0) with
    | some n :: rest => { p with waiting := some (n - 1) :: rest }
    | waiting => { p with waiting }
  else { p with items := p.items - 1 }

end Pending

/-- Checks the content of a string that is passed over: a text must be well-formed. -/
def checkContent (major pos : Nat) (content : Bytes) : Except ReadError Unit :=
  if major = majorText ∧ content.text? = none then .error (.invalidUtf8 pos) else .ok ()

/-- Passes over the chunks of a string of indefinite length up to the break. Each round reads a
byte at least, so as much fuel as there are bytes is enough. -/
def skipChunks (major : Nat) : Nat → Cursor → Except ReadError Cursor
  | 0, _ => .error .endOfInput
  | fuel + 1, c =>
    match c.rest with
    | [] => .error .endOfInput
    | b :: _ =>
      if b = breakByte then .ok (c.advance 1)
      else do
        let (content, c') ← definiteString major c
        checkContent major c.pos content
        skipChunks major fuel c'

def skipString (major : Nat) (c : Cursor) : Except ReadError Cursor := do
  let (b, c') ← byte c
  if infoOf b = indefinite then skipChunks major c'.rest.length c'
  else
    let (length, c') ← argument (infoOf b) c.pos c'
    let (content, c') ← take length c'
    checkContent major c.pos content
    return c'

def skipHead (c : Cursor) : Except ReadError Cursor := do
  let (b, c') ← byte c
  let (_, c') ← argument (infoOf b) c.pos c'
  return c'

/-- Reads the head of a container of `perEntry` items per entry, and opens it. -/
def skipContainer (major perEntry : Nat) (p : Pending) (c : Cursor) :
    Except ReadError (Pending × Cursor) := do
  let (length, c') ← containerLength major c
  match length with
  | some n => return (p.openDefinite (min (perEntry * n) Pending.maxCount), c')
  | none => return (p.openIndefinite, c')

/-- Passes over one item, or the head of one that holds others, and says what is owed then. -/
def skipStep (p : Pending) (c : Cursor) : Except ReadError (Pending × Cursor) :=
  match c.rest with
  | [] => .error .endOfInput
  | b :: _ =>
    if b = breakByte then .ok (p.close.endRound, c.advance 1)
    else
      let major := majorOf b
      if major = majorBytes ∨ major = majorText then do
        return (p.endRound, ← skipString major c)
      else if major = majorArray then do
        let (p, c') ← skipContainer major 1 p c
        return (p.endRound, c')
      else if major = majorMap then do
        let (p, c') ← skipContainer major 2 p c
        return (p.endRound, c')
      else if 28 ≤ infoOf b then .error (.typeMismatch c.pos)
      -- A tag belongs to the item behind it, which is still owed.
      else if major = 6 then do return (p, ← skipHead c)
      else do return (p.endRound, ← skipHead c)

/-- Passes over items until nothing is owed. Each round reads a byte at least, so one unit of fuel
more than there are bytes is enough. -/
def skipLoop : Nat → Pending → Cursor → Except ReadError Cursor
  | 0, _, _ => .error .endOfInput
  | fuel + 1, p, c =>
    if p.isDone then .ok c
    else do
      let (p, c') ← skipStep p c
      skipLoop fuel p c'

def skip (c : Cursor) : Except ReadError Cursor := skipLoop (c.rest.length + 1) .one c

end Enrolment.Cbor

import Enrolment.Proofs.Items

/-!
# Enrolment.Proofs.Skipping

An item is passed over as a whole, whatever is inside it and however its lengths are written. Bytes
are described by what is still to come: items, and the breaks of the items of indefinite length that
are open. The counts of a `Pending` say less than that. How many items stand before a break is not
known before the break comes, so a count in front of one is a lower bound; only the last count is
exact, and it is the one that ends the loop.

* `tally_endRound`, `tally_openDefinite`, `tally_openIndefinite`, `tally_close`: a round, on the
  counts.
* `Tracks.skipStep`, `Tracks.skipLoop`: one round passes over what comes next, and the loop over
  everything.
* `skip_written`: an item is passed over, unless a text in it is none in UTF-8, which is refused.
-/

namespace Enrolment.Cbor

/-! ## Lengths of both kinds -/

/-- What is still to come: an item, or the break of an open item of indefinite length. -/
inductive Owed
  | item (i : Item)
  | close

/-- Where it is asked for, a text has to be one in UTF-8. -/
def Allowed (strict : Bool) (major : Nat) (content : Bytes) : Prop :=
  strict = true → major = majorText → ∃ s, content = utf8 s

/-- The chunks of a string of indefinite length, up to the break. Each is a string of definite
length, and a text has to be one chunk by chunk. -/
inductive Chunks (strict : Bool) (major : Nat) : Bytes → Bytes → Prop
  | nil : Chunks strict major [] [breakByte]
  | cons {chunk content head b : Bytes} (hhead : Head major chunk.length head)
      (hchunk : Allowed strict major chunk) (rest : Chunks strict major content b) :
      Chunks strict major (chunk ++ content) (head ++ (chunk ++ b))

/-- The bytes write what is still to come. An item may have a definite length. Else a string is in
chunks, and an array or a map is what is inside of it, up to a break. If `strict`, texts have to be
in UTF-8. -/
inductive Writes (strict : Bool) : List Owed → Bytes → Prop
  | nil : Writes strict [] []
  | close {tasks : List Owed} {b : Bytes} (rest : Writes strict tasks b) :
      Writes strict (.close :: tasks) (breakByte :: b)
  | definite {item : Item} {tasks : List Owed} {head b : Bytes}
      (hhead : Head item.major item.argument head)
      (hcontent : Allowed strict item.major item.content)
      (rest : Writes strict (item.inner.map .item ++ tasks) b) :
      Writes strict (.item item :: tasks) (head ++ (item.content ++ b))
  | chunked {item : Item} {tasks : List Owed} {chunks b : Bytes}
      (hmajor : item.major = majorBytes ∨ item.major = majorText)
      (hchunks : Chunks strict item.major item.content chunks) (rest : Writes strict tasks b) :
      Writes strict (.item item :: tasks) (firstByte item.major indefinite :: (chunks ++ b))
  | opened {item : Item} {tasks : List Owed} {b : Bytes}
      (hmajor : item.major = majorArray ∨ item.major = majorMap)
      (rest : Writes strict (item.inner.map .item ++ .close :: tasks) b) :
      Writes strict (.item item :: tasks) (firstByte item.major indefinite :: b)

/-- Items of definite length, with texts in UTF-8, are written. -/
theorem Spells.writes {strict : Bool} {items : List Item} {b : Bytes} (h : Spells items b)
    (hutf8 : ∀ item ∈ items, item.Utf8) : Writes strict (items.map .item) b := by
  induction h with
  | nil => exact .nil
  | cons head _ ih =>
    obtain ⟨⟨hcontent, hinner⟩, hothers⟩ := List.forall_mem_cons.1 hutf8
    rw [List.map_append] at ih
    exact .definite head (fun _ => hcontent) (ih (List.forall_mem_append.2 ⟨hinner, hothers⟩))

theorem Writes.length_le {strict : Bool} {tasks : List Owed} {b : Bytes}
    (h : Writes strict tasks b) : tasks.length ≤ b.length := by
  induction h with
  | nil => exact Nat.le_refl 0
  | close _ ih => exact Nat.succ_le_succ ih
  | definite hhead _ _ ih =>
    have := hhead.length_pos
    simp only [List.length_append, List.length_cons] at ih ⊢
    omega
  | chunked _ _ _ ih | opened _ _ ih =>
    simp only [List.length_append, List.length_cons] at ih ⊢
    omega

/-! ## Counts -/

namespace Pending

/-- The waiting counts, added up between one container of indefinite length and the next. -/
def sums : List (Option Nat) → Nat × List Nat
  | [] => (0, [])
  | some n :: waiting => ((sums waiting).1 + n, (sums waiting).2)
  | none :: waiting => (0, (sums waiting).1 :: (sums waiting).2)

/-- How many items are counted before the first break, and between each break and the next. A count
on top of those that wait leaves out the item that comes next. -/
def tally : Pending → Nat × List Nat
  | ⟨items, breaks, []⟩ => (items, List.replicate breaks 0)
  | ⟨_, _, some n :: waiting⟩ => ((sums waiting).1 + n + 1, (sums waiting).2)
  | ⟨_, _, none :: waiting⟩ => (0, (sums waiting).1 :: (sums waiting).2)

/-- Items are counted, or counts wait, but not both. -/
inductive Sound : Pending → Prop
  | counting (items breaks : Nat) : Sound ⟨items, breaks, []⟩
  | waiting (top : Option Nat) (below : List (Option Nat)) : Sound ⟨0, 0, top :: below⟩

theorem sound_idle (waiting : List (Option Nat)) : Sound ⟨0, 0, waiting⟩ := by
  cases waiting with
  | nil => exact .counting 0 0
  | cons top below => exact .waiting top below

theorem sums_replicate (n : Nat) : sums (List.replicate n none) = (0, List.replicate n 0) := by
  induction n with
  | zero => rfl
  | succ n ih => rw [List.replicate_succ, sums, ih, List.replicate_succ]

/-- Where no item was counted, ending a round takes the exhausted counts off, and one item off the
count below. -/
theorem tally_endRound_idle (waiting : List (Option Nat)) :
    (endRound ⟨0, 0, waiting⟩).tally = sums waiting := by
  induction waiting with
  | nil => rfl
  | cons top below ih =>
    match top with
    | none => rfl
    | some 0 => exact ih
    | some (n + 1) => rfl

theorem tally_endRound {p : Pending} (h : p.Sound) :
    p.endRound.Sound ∧ p.endRound.tally = (p.tally.1 - 1, p.tally.2) := by
  cases h with
  | counting items breaks =>
    rw [endRound]
    split
    · next hidle =>
      obtain ⟨rfl, rfl⟩ : items = 0 ∧ breaks = 0 := by simpa [isIdle] using hidle
      exact ⟨.counting 0 0, rfl⟩
    · exact ⟨.counting (items - 1) breaks, rfl⟩
  | waiting top below =>
    refine ⟨?_, ?_⟩
    · have hidle : isIdle ⟨0, 0, top :: below⟩ = true := rfl
      rw [endRound, if_pos hidle]
      split <;> exact sound_idle _
    · rw [tally_endRound_idle]
      cases top <;> rfl

/-- A container of definite length puts what it holds in the place of itself. Where an item was
counted, this is exact. -/
theorem tally_openDefinite {p : Pending} (h : p.Sound) (hdone : p.isDone = false) {n : Nat}
    (hn : p.tally.1 + n ≤ maxCount) :
    (p.openDefinite n).endRound.Sound ∧
      ∃ m, (p.openDefinite n).endRound.tally = (m, p.tally.2) ∧
        m ≤ p.tally.1 - 1 + n ∧ (0 < p.tally.1 → m = p.tally.1 - 1 + n) := by
  obtain rfl | hpos := Nat.eq_zero_or_pos n
  · obtain ⟨hsound, htally⟩ := tally_endRound h
    exact ⟨hsound, _, htally, Nat.le_refl _, fun _ => rfl⟩
  have hne : n ≠ 0 := by omega
  cases h with
  | counting items breaks =>
    have hbusy : isIdle ⟨items, breaks, []⟩ = false := by simpa [isDone] using hdone
    have hmin : min (items + n) maxCount = items + n := Nat.min_eq_left hn
    have hopen : openDefinite ⟨items, breaks, []⟩ n = ⟨items + n, breaks, []⟩ := by
      simp [openDefinite, hne, hbusy, hmin]
    obtain ⟨hsound, htally⟩ := tally_endRound (.counting (items + n) breaks)
    rw [hopen]
    refine ⟨hsound, _, htally, ?_, ?_⟩ <;> simp only [tally] <;> omega
  | waiting top below =>
    -- The count that was on top has left out the container already, so the counts add up.
    have hopen : openDefinite ⟨0, 0, top :: below⟩ n = ⟨0, 0, some n :: top :: below⟩ := by
      simp [openDefinite, hne, isIdle]
    obtain ⟨hsound, htally⟩ := tally_endRound (.waiting (some n) (top :: below))
    rw [hopen]
    cases top <;> refine ⟨hsound, _, htally, ?_, ?_⟩ <;> simp only [tally, sums] <;> omega

/-- A container of indefinite length puts a break in the place of itself, with any number of items
before it. -/
theorem tally_openIndefinite {p : Pending} (h : p.Sound) (hdone : p.isDone = false) :
    p.openIndefinite.endRound.Sound ∧
      p.openIndefinite.endRound.tally = (0, (p.tally.1 - 1) :: p.tally.2) := by
  cases h with
  | counting items breaks =>
    have hbusy : isIdle ⟨items, breaks, []⟩ = false := by simpa [isDone] using hdone
    simp only [openIndefinite, hbusy, Bool.false_eq_true, if_false, List.append_nil]
    split
    · next hfew =>
      obtain ⟨hsound, htally⟩ := tally_endRound (.counting items (breaks + 1))
      refine ⟨hsound, htally.trans ?_⟩
      have hnone : items - 1 = 0 := by omega
      simp only [tally, hnone, List.replicate_succ]
    · obtain ⟨hsound, htally⟩ :=
        tally_endRound (.waiting none (some (items - 1) :: List.replicate breaks none))
      refine ⟨hsound, htally.trans ?_⟩
      simp only [tally, sums, sums_replicate, Nat.zero_add, Nat.zero_sub]
  | waiting top below =>
    obtain ⟨hsound, htally⟩ := tally_endRound (.waiting none (top :: below))
    refine ⟨hsound, htally.trans ?_⟩
    cases top <;> rfl

/-- A break ends the innermost container of indefinite length. -/
theorem tally_close {p : Pending} (h : p.Sound) {n : Nat} {ns : List Nat}
    (htally : p.tally = (0, n :: ns)) :
    p.close.endRound.Sound ∧ p.close.endRound.tally = (n, ns) := by
  cases h with
  | counting items breaks =>
    cases breaks with
    | zero => cases htally
    | succ breaks =>
      cases htally
      exact tally_endRound (.counting 0 breaks)
  | waiting top below =>
    cases top with
    | none =>
      cases htally
      refine ⟨?_, tally_endRound_idle below⟩
      exact (tally_endRound (sound_idle below)).1
    | some k => cases htally

theorem isDone_iff {p : Pending} (h : p.Sound) : p.isDone = true ↔ p.tally = (0, []) := by
  cases h with
  | counting items breaks => simp [isDone, isIdle, tally]
  | waiting top below => cases top <;> simp [isDone, isIdle, tally]

end Pending

/-! ## Counting what is still to come -/

/-- How many items come before the first break, and between each break and the next. -/
def groups : List Owed → Nat × List Nat
  | [] => (0, [])
  | .item _ :: tasks => ((groups tasks).1 + 1, (groups tasks).2)
  | .close :: tasks => (0, (groups tasks).1 :: (groups tasks).2)

theorem groups_append (items : List Item) (tasks : List Owed) :
    groups (items.map .item ++ tasks) = (items.length + (groups tasks).1, (groups tasks).2) := by
  induction items with
  | nil => simp
  | cons item items ih =>
    simp only [List.map_cons, List.cons_append, groups, ih, List.length_cons, Nat.add_right_comm]

theorem groups_le (tasks : List Owed) : (groups tasks).1 ≤ tasks.length := by
  induction tasks with
  | nil => exact Nat.le_refl 0
  | cons task tasks ih =>
    cases task with
    | item i => exact Nat.succ_le_succ ih
    | close => exact Nat.zero_le _

/-- The counts of a tally are lower bounds of those that `groups` finds, and the last one is exact:
behind the last break nothing is left open. -/
inductive Fits : Nat × List Nat → Nat × List Nat → Prop
  | last (n : Nat) : Fits (n, []) (n, [])
  | cons {n m : Nat} (h : n ≤ m) {n' m' : Nat} {ns ms : List Nat}
      (rest : Fits (n', ns) (m', ms)) : Fits (n, n' :: ns) (m, m' :: ms)

theorem Fits.le {n m : Nat} {ns ms : List Nat} (h : Fits (n, ns) (m, ms)) : n ≤ m := by
  cases h with
  | last => exact Nat.le_refl n
  | cons h _ => exact h

/-- The first count may change, if it stays a lower bound, and exact where it was. -/
theorem Fits.first {n m k l : Nat} {ns ms : List Nat} (h : Fits (n, ns) (m, ms))
    (hle : k ≤ l) (heq : n = m → k = l) : Fits (k, ns) (l, ms) := by
  cases h with
  | last =>
    obtain rfl := heq rfl
    exact .last k
  | cons _ rest => exact .cons hle rest

/-- The counts are good for what is still to come. -/
structure Tracks (p : Pending) (tasks : List Owed) : Prop where
  sound : p.Sound
  fits : Fits p.tally (groups tasks)

section Tracks

variable {p p' : Pending} {item : Item} {task : Owed} {tasks : List Owed}

theorem Tracks.isDone_iff (h : Tracks p tasks) : p.isDone = true ↔ tasks = [] := by
  rw [Pending.isDone_iff h.sound]
  have hfits := h.fits
  generalize p.tally = tally at hfits ⊢
  cases tasks with
  | nil => cases hfits; simp
  | cons task tasks =>
    refine ⟨?_, nofun⟩
    rintro rfl
    cases task <;> cases hfits

theorem Tracks.isDone_cons (h : Tracks p (task :: tasks)) : p.isDone = false := by
  rw [Bool.eq_false_iff, Ne, h.isDone_iff]
  exact List.cons_ne_nil _ _

theorem Tracks.fits_item (h : Tracks p (.item item :: tasks)) :
    Fits (p.tally.1, p.tally.2) ((groups tasks).1 + 1, (groups tasks).2) :=
  h.fits

/-- An item comes off, and what is inside it comes on. -/
theorem Tracks.opened (h : Tracks p (.item item :: tasks)) (hsound : p'.Sound) {n : Nat}
    (htally : p'.tally = (n, p.tally.2)) (hle : n ≤ p.tally.1 - 1 + item.inner.length)
    (heq : 0 < p.tally.1 → n = p.tally.1 - 1 + item.inner.length) :
    Tracks p' (item.inner.map .item ++ tasks) := by
  refine ⟨hsound, ?_⟩
  rw [htally, groups_append]
  have hbound := h.fits_item.le
  exact h.fits_item.first (by omega) (by omega)

/-- An item with nothing inside it comes off. -/
theorem Tracks.endRound (h : Tracks p (.item item :: tasks)) (hinner : item.inner = []) :
    Tracks p.endRound tasks := by
  obtain ⟨hsound, htally⟩ := Pending.tally_endRound h.sound
  have hopened := h.opened hsound htally (Nat.le_add_right _ _) (fun _ => by rw [hinner]; rfl)
  rwa [hinner] at hopened

/-- A tag comes off, and the item that it belongs to comes on. -/
theorem Tracks.tag (h : Tracks p (.item item :: tasks)) (inner : Item) :
    Tracks p (.item inner :: tasks) :=
  ⟨h.sound, h.fits⟩

theorem Tracks.openDefinite (h : Tracks p (.item item :: tasks))
    (hcount : item.inner.length + (tasks.length + 1) ≤ Pending.maxCount) :
    Tracks (p.openDefinite item.inner.length).endRound (item.inner.map .item ++ tasks) := by
  have hbound := h.fits_item.le
  have hgroup := groups_le tasks
  obtain ⟨hsound, n, htally, hle, heq⟩ :=
    Pending.tally_openDefinite h.sound h.isDone_cons (n := item.inner.length) (by omega)
  exact h.opened hsound htally hle heq

theorem Tracks.openIndefinite (h : Tracks p (.item item :: tasks)) :
    Tracks p.openIndefinite.endRound (item.inner.map .item ++ .close :: tasks) := by
  obtain ⟨hsound, htally⟩ := Pending.tally_openIndefinite h.sound h.isDone_cons
  refine ⟨hsound, ?_⟩
  rw [htally, groups_append]
  have hbound := h.fits_item.le
  exact .cons (Nat.zero_le _) (h.fits_item.first (by omega) (by omega))

theorem Tracks.close (h : Tracks p (.close :: tasks)) : Tracks p.close.endRound tasks := by
  have hfits : Fits p.tally (0, (groups tasks).1 :: (groups tasks).2) := h.fits
  generalize hp : p.tally = tally at hfits
  cases hfits with
  | cons hle rest =>
    obtain rfl := Nat.le_zero.1 hle
    obtain ⟨hsound, htally⟩ := Pending.tally_close h.sound hp
    exact ⟨hsound, htally ▸ rest⟩

end Tracks

/-! ## Passing over -/

theorem array_ne_string : ¬ (majorArray = majorBytes ∨ majorArray = majorText) := by decide

theorem map_ne_string : ¬ (majorMap = majorBytes ∨ majorMap = majorText) := by decide

theorem map_ne_array : ¬ majorMap = majorArray := by decide

/-- A value with a property comes back, or, unless texts have to be in UTF-8, a refusal. -/
def Returns {α : Type} (strict : Bool) (r : Except ReadError α) (P : α → Prop) : Prop :=
  (∃ a, r = .ok a ∧ P a) ∨ strict = false ∧ ∃ e, r = .error e

theorem Returns.ok {α : Type} {strict : Bool} {P : α → Prop} {a : α} (h : P a) :
    Returns strict (.ok a) P :=
  .inl ⟨a, rfl, h⟩

theorem Returns.mono {α : Type} {strict : Bool} {r : Except ReadError α} {P Q : α → Prop}
    (h : Returns strict r P) (himp : ∀ a, P a → Q a) : Returns strict r Q :=
  h.imp (fun ⟨a, ha, hP⟩ => ⟨a, ha, himp a hP⟩) id

theorem Returns.bind {α β : Type} {strict : Bool} {r : Except ReadError α} {P : α → Prop}
    {f : α → Except ReadError β} {Q : β → Prop} (h : Returns strict r P)
    (hf : ∀ a, P a → Returns strict (f a) Q) : Returns strict (r >>= f) Q := by
  obtain ⟨a, rfl, ha⟩ | ⟨hlax, e, rfl⟩ := h
  · exact hf a ha
  · exact .inr ⟨hlax, e, rfl⟩

section Strings

variable {strict : Bool} {major : Nat} {content head chunks rest : Bytes} {c : Cursor}

theorem Allowed.checkContent (h : Allowed strict major content) (pos : Nat) :
    Returns strict (checkContent major pos content) fun _ => Allowed true major content := by
  rw [Cbor.checkContent]
  split
  · next hbad =>
    obtain ⟨hmajor, hnone⟩ := hbad
    refine .inr ⟨?_, _, rfl⟩
    rw [Bool.eq_false_iff]
    intro hstrict
    obtain ⟨s, rfl⟩ := h hstrict hmajor
    simp at hnone
  · next hgood =>
    refine .ok fun _ hmajor => ?_
    obtain ⟨s, hs⟩ := Option.ne_none_iff_exists'.1 fun hnone => hgood ⟨hmajor, hnone⟩
    exact ⟨s, (Bytes.utf8_of_text? hs).symm⟩

theorem exists_string (hmajor : major = majorBytes ∨ major = majorText) (content : Bytes) :
    ∃ item : Item, item.major = major ∧ item.argument = content.length ∧
      item.content = content := by
  obtain rfl | rfl := hmajor
  · exact ⟨.bytes content, rfl, rfl, rfl⟩
  · exact ⟨.text content, rfl, rfl, rfl⟩

theorem Chunks.skipChunks (hmajor : major = majorBytes ∨ major = majorText) {fuel : Nat}
    (h : Chunks strict major content chunks) (hfuel : chunks.length ≤ fuel)
    (hrest : c.rest = chunks ++ rest) :
    Returns strict (skipChunks major fuel c) fun c' =>
      c'.rest = rest ∧ Chunks true major content chunks := by
  induction h generalizing fuel c with
  | nil =>
    cases fuel with
    | zero => exact absurd hfuel (Nat.not_succ_le_zero 0)
    | succ fuel =>
      simp only [Cbor.skipChunks, hrest, List.singleton_append, if_true]
      exact .ok ⟨by simp [Cursor.advance, hrest], .nil⟩
  | @cons chunk content head b hhead hchunk _ ih =>
    have hpos := hhead.length_pos
    rw [List.length_append, List.length_append] at hfuel
    cases fuel with
    | zero => omega
    | succ fuel =>
      obtain ⟨item, rfl, hlen, rfl⟩ := exists_string hmajor chunk
      rw [← hlen] at hhead
      rw [List.append_assoc, List.append_assoc] at hrest
      obtain ⟨first, c₁, c₂, c₃, hopens, h₃⟩ := hhead.opens _ hrest
      simp only [Cbor.skipChunks, hopens.rest, if_neg hopens.ne_breakByte,
        hopens.definiteString hlen.symm]
      refine (hchunk.checkContent c.pos).bind fun _ hchunk => ?_
      refine (ih (by omega) h₃).mono ?_
      rintro c' ⟨hc', hchunks⟩
      exact ⟨hc', .cons (hlen ▸ hhead) hchunk hchunks⟩

theorem Chunks.skipString (hmajor : major = majorBytes ∨ major = majorText)
    (h : Chunks strict major content chunks)
    (hrest : c.rest = firstByte major indefinite :: (chunks ++ rest)) :
    Returns strict (skipString major c) fun c' =>
      c'.rest = rest ∧ Chunks true major content chunks := by
  have hinfo : infoOf (firstByte major indefinite) = indefinite := by
    obtain rfl | rfl := hmajor <;> rfl
  have hbyte : byte c = .ok (firstByte major indefinite, c.advance 1) := by
    simp only [byte, hrest]
  have hnext : (c.advance 1).rest = chunks ++ rest := by
    simp [Cursor.advance, hrest]
  simp only [Cbor.skipString, hbyte, bind, Except.bind, hinfo, if_true]
  exact h.skipChunks hmajor (by simp [hnext]) hnext

end Strings

section Opens

variable {strict : Bool} {item : Item} {c : Cursor} {first : UInt8} {c₁ c₂ c₃ : Cursor}

theorem Opens.skipHead (h : Opens item c first c₁ c₂ c₃) (hnone : item.content = []) :
    skipHead c = .ok c₃ := by
  simp [Cbor.skipHead, h.byte, h.argument, h.behind_head hnone, bind, Except.bind, pure,
    Except.pure]

theorem Opens.skipString (h : Opens item c first c₁ c₂ c₃)
    (hlen : item.content.length = item.argument)
    (hcontent : Allowed strict item.major item.content) :
    Returns strict (skipString item.major c) fun c' =>
      c' = c₃ ∧ Allowed true item.major item.content := by
  have hskip : Cbor.skipString item.major c =
      (checkContent item.major c.pos item.content).bind fun _ => .ok c₃ := by
    simp [Cbor.skipString, h.byte, h.definite, h.argument, ← hlen, h.content, bind, Except.bind,
      pure, Except.pure]
  rw [hskip]
  exact (hcontent.checkContent c.pos).bind fun _ hcontent => .ok ⟨rfl, hcontent⟩

theorem Opens.skipStep {p : Pending} {tasks : List Owed} (h : Opens item c first c₁ c₂ c₃)
    (htracks : Tracks p (.item item :: tasks))
    (hcount : item.inner.length + (tasks.length + 1) ≤ Pending.maxCount)
    (hcontent : Allowed strict item.major item.content) :
    Returns strict (skipStep p c) fun next =>
      Tracks next.1 (item.inner.map .item ++ tasks) ∧ next.2 = c₃ ∧
        Allowed true item.major item.content := by
  have hlow : ¬ 28 ≤ infoOf first := Nat.not_le.2 h.info
  have hmin : min item.inner.length Pending.maxCount = item.inner.length :=
    Nat.min_eq_left (by omega)
  have hother (hkind : item.kind = .other) : Allowed true item.major item.content := by
    intro _ hmajor
    rw [majorText_iff, hkind] at hmajor
    cases hmajor
  simp only [Cbor.skipStep, h.rest, if_neg h.ne_breakByte, h.major, if_neg hlow]
  cases item with
  | atom kind n =>
    have hskip := h.skipHead rfl
    refine .inl ⟨(p.endRound, c₃), ?_, htracks.endRound rfl, rfl, hother rfl⟩
    cases kind <;>
      simp [Item.major, Atom.major, majorBytes, majorText, majorArray, majorMap, hskip, bind,
        Except.bind, pure, Except.pure]
  | tag number content =>
    have hskip := h.skipHead rfl
    refine .inl ⟨(p, c₃), ?_, htracks.tag content, rfl, hother rfl⟩
    simp [Item.major, majorBytes, majorText, majorArray, majorMap, hskip, bind, Except.bind, pure,
      Except.pure]
  | bytes content | text content =>
    simp only [Item.major, true_or, or_true, if_true]
    refine (h.skipString rfl hcontent).bind ?_
    rintro _ ⟨rfl, hcontent⟩
    exact .ok ⟨htracks.endRound rfl, rfl, hcontent⟩
  | array elements =>
    have hlength : Cbor.containerLength majorArray c = .ok (some elements.length, c₃) :=
      h.containerLength rfl
    refine .inl ⟨((p.openDefinite elements.length).endRound, c₃), ?_,
      htracks.openDefinite hcount, rfl, hother rfl⟩
    simp only [Item.inner] at hmin
    simp [Item.major, if_neg array_ne_string, skipContainer, hlength, hmin, bind, Except.bind, pure,
      Except.pure]
  | map entries =>
    have hlength : Cbor.containerLength majorMap c = .ok (some entries.length, c₃) :=
      h.containerLength rfl
    have hinner : (Item.map entries).inner.length = 2 * entries.length :=
      length_flatMap_pair Prod.fst Prod.snd entries
    refine .inl ⟨((p.openDefinite (Item.map entries).inner.length).endRound, c₃), ?_,
      htracks.openDefinite hcount, rfl, hother rfl⟩
    rw [hinner] at hmin
    simp [Item.major, if_neg map_ne_string, if_neg map_ne_array, skipContainer, hlength, hinner,
      hmin, bind, Except.bind, pure, Except.pure]

end Opens

/-- What a round leaves to do: fewer bytes, which write what is still to come. If they do so with
texts in UTF-8, so did those before the round. -/
def Round (strict : Bool) (tasks : List Owed) (b tail : Bytes) (next : Pending × Cursor) : Prop :=
  ∃ tasks' b', Tracks next.1 tasks' ∧ next.2.rest = b' ++ tail ∧ b'.length < b.length ∧
    Writes strict tasks' b' ∧ (Writes true tasks' b' → Writes true tasks b)

section Rounds

variable {strict : Bool} {item : Item} {task : Owed} {tasks : List Owed} {b tail : Bytes}
  {p : Pending} {c : Cursor}

/-- The first byte of an item of indefinite length is that of no other, and no break. -/
theorem firstByte_indefinite {major : Nat} (h : major < 6) :
    majorOf (firstByte major indefinite) = major ∧
      infoOf (firstByte major indefinite) = indefinite ∧
      firstByte major indefinite ≠ breakByte := by
  have hmajor : majorOf (firstByte major indefinite) = major :=
    majorOf_firstByte (by omega) (by decide)
  refine ⟨hmajor, infoOf_firstByte (by omega) (by decide), fun hbreak => ?_⟩
  rw [hbreak] at hmajor
  have : majorOf breakByte = 7 := rfl
  omega

theorem Tracks.skipStep_chunked {chunks : Bytes} (htracks : Tracks p (.item item :: tasks))
    (hmajor : item.major = majorBytes ∨ item.major = majorText)
    (hchunks : Chunks strict item.major item.content chunks)
    (hrest : c.rest = firstByte item.major indefinite :: (chunks ++ (b ++ tail))) :
    Returns strict (skipStep p c) fun next =>
      Tracks next.1 tasks ∧ next.2.rest = b ++ tail ∧
        Chunks true item.major item.content chunks := by
  have hlt : item.major < 6 := by
    simp only [majorBytes, majorText] at hmajor
    omega
  have hinner : item.inner = [] := by
    cases item <;> simp [Item.major, majorBytes, majorText, majorArray, majorMap] at hmajor <;> rfl
  obtain ⟨hfirst, -, hbreak⟩ := firstByte_indefinite hlt
  simp only [skipStep, hrest, if_neg hbreak, hfirst, if_pos hmajor]
  refine (hchunks.skipString hmajor hrest).bind fun c' hc' => ?_
  exact .ok ⟨htracks.endRound hinner, hc'⟩

theorem skipStep_opened (hmajor : item.major = majorArray ∨ item.major = majorMap)
    (hrest : c.rest = firstByte item.major indefinite :: b) :
    skipStep p c = .ok (p.openIndefinite.endRound, c.advance 1) := by
  have hbyte : byte c = .ok (firstByte item.major indefinite, c.advance 1) := by
    simp only [byte, hrest]
  have hlt : item.major < 6 := by
    simp only [majorArray, majorMap] at hmajor
    omega
  obtain ⟨hfirst, hinfo, hbreak⟩ := firstByte_indefinite hlt
  have hlength : containerLength item.major c = .ok (none, c.advance 1) := by
    simp [containerLength, hbyte, hfirst, hinfo, bind, Except.bind, pure, Except.pure]
  simp only [skipStep, hrest, if_neg hbreak, hfirst]
  obtain hmajor | hmajor := hmajor <;> rw [hmajor] at hlength ⊢
  · simp [if_neg array_ne_string, skipContainer, hlength, bind, Except.bind, pure, Except.pure]
  · simp [if_neg map_ne_string, skipContainer, hlength, bind, Except.bind, pure, Except.pure]

/-- One round, as its case of `Writes` has it. -/
theorem Tracks.skipStep (htracks : Tracks p (task :: tasks))
    (hwrites : Writes strict (task :: tasks) b) (hlen : b.length ≤ Pending.maxCount)
    (hrest : c.rest = b ++ tail) :
    Returns strict (skipStep p c) (Round strict (task :: tasks) b tail) := by
  have hcount := hwrites.length_le
  cases hwrites with
  | close hnext =>
    simp only [Cbor.skipStep, hrest, List.cons_append, if_true]
    exact .ok ⟨tasks, _, htracks.close, by simp [Cursor.advance, hrest], Nat.lt_succ_self _, hnext,
      .close⟩
  | @definite item _ head b hhead hcontent hnext =>
    have hpos := hhead.length_pos
    have hbytes := hnext.length_le
    simp only [List.length_append, List.length_map] at hlen hbytes
    rw [List.append_assoc, List.append_assoc] at hrest
    obtain ⟨first, c₁, c₂, c₃, hopens, h₃⟩ := hhead.opens _ hrest
    refine (hopens.skipStep htracks (by omega) hcontent).mono ?_
    rintro next ⟨htracks, rfl, hcontent⟩
    refine ⟨_, b, htracks, h₃, ?_, hnext, .definite hhead hcontent⟩
    simp only [List.length_append]
    omega
  | @chunked item _ chunks b hmajor hchunks hnext =>
    rw [List.cons_append, List.append_assoc] at hrest
    refine (htracks.skipStep_chunked hmajor hchunks hrest).mono ?_
    rintro next ⟨htracks, hc, hchunks⟩
    refine ⟨_, b, htracks, hc, ?_, hnext, .chunked hmajor hchunks⟩
    simp only [List.length_append, List.length_cons]
    omega
  | @opened item _ b hmajor hnext =>
    rw [skipStep_opened hmajor hrest]
    exact .ok ⟨_, b, htracks.openIndefinite, by simp [Cursor.advance, hrest], Nat.lt_succ_self _,
      hnext, .opened hmajor⟩

/-- The loop passes over all that is still to come, and stops. -/
theorem Tracks.skipLoop (fuel : Nat) (htracks : Tracks p tasks) (hwrites : Writes strict tasks b)
    (hlen : b.length ≤ Pending.maxCount) (hfuel : b.length < fuel) (hrest : c.rest = b ++ tail) :
    Returns strict (skipLoop fuel p c) fun c' => c'.rest = tail ∧ Writes true tasks b := by
  induction fuel generalizing p tasks b c with
  | zero => exact absurd hfuel (Nat.not_lt_zero _)
  | succ fuel ih =>
    rw [Cbor.skipLoop]
    cases tasks with
    | nil =>
      cases hwrites
      rw [if_pos (htracks.isDone_iff.2 rfl)]
      exact .ok ⟨hrest, .nil⟩
    | cons task tasks =>
      rw [htracks.isDone_cons, if_neg Bool.false_ne_true]
      refine (htracks.skipStep hwrites hlen hrest).bind ?_
      rintro next ⟨tasks', b', htracks, hrest, hshort, hwrites, hback⟩
      refine (ih htracks hwrites (by omega) (by omega) hrest).mono ?_
      rintro c' ⟨hc', hutf8⟩
      exact ⟨hc', hback hutf8⟩

end Rounds

section Items

variable {item : Item} {items : List Item} {b tail : Bytes} {c : Cursor}

theorem skip_returns {strict : Bool} (h : Writes strict [.item item] b)
    (hlen : b.length ≤ Pending.maxCount) (hrest : c.rest = b ++ tail) :
    Returns strict (skip c) fun c' => c'.rest = tail ∧ Writes true [.item item] b := by
  have htracks : Tracks .one [.item item] := ⟨.counting 1 0, .last 1⟩
  have hfuel : b.length < c.rest.length + 1 := by
    rw [hrest, List.length_append]
    omega
  exact htracks.skipLoop _ h hlen hfuel hrest

/-- An item is passed over, unless a text in it is none in UTF-8. -/
theorem skip_written (h : Writes false [.item item] b) (hlen : b.length ≤ Pending.maxCount)
    (hrest : c.rest = b ++ tail) :
    (Writes true [.item item] b → ∃ c', skip c = .ok c' ∧ c'.rest = tail) ∧
      (¬ Writes true [.item item] b → ∃ e, skip c = .error e) := by
  refine ⟨fun hutf8 => ?_, fun hutf8 => ?_⟩
  · obtain ⟨c', hskip, hc', -⟩ | ⟨hlax, -⟩ := skip_returns hutf8 hlen hrest
    · exact ⟨c', hskip, hc'⟩
    · cases hlax
  · obtain ⟨c', -, -, hback⟩ | ⟨-, he⟩ := skip_returns h hlen hrest
    · exact absurd hback hutf8
    · exact he

theorem Before.skip (h : Before (item :: items) tail c) :
    ∃ c', skip c = .ok c' ∧ Before items tail c' := by
  obtain ⟨hutf8, b, hrest, hspells, hlen⟩ := h
  obtain ⟨hitem, hothers⟩ := List.forall_mem_cons.1 hutf8
  have hspells : Spells ([item] ++ items) b := hspells
  obtain ⟨b₁, b₂, rfl, h₁, h₂⟩ := hspells.of_append
  rw [List.length_append] at hlen
  rw [List.append_assoc] at hrest
  have hwrites : Writes true [.item item] b₁ := h₁.writes (List.forall_mem_singleton.2 hitem)
  obtain ⟨c', hskip, hc', -⟩ | ⟨hlax, -⟩ := skip_returns hwrites (by omega) hrest
  · exact ⟨c', hskip, hothers, b₂, hc', h₂, by omega⟩
  · cases hlax

end Items

end Enrolment.Cbor

import Enrolment.Proofs.Skipping
import Enrolment.Proofs.Spelling

/-!
# Enrolment.Proofs.Tokens

Heads, breaks and contents, one after the other. Below the items the input is a flat sequence of
tokens, and there is one way only to see it as such (`Tokens.unique`). So it makes sense to ask of
any bytes that have been read where in them something of indefinite length begins, even if the
items do not add up: passing over counts items, and does not mind a break that nothing waits for.

* `text_between`, `containerLength_between`: what a reader takes, as tokens.
* `skip_between`: what is passed over is made of tokens, at least one.
* `kindAt_opening`: the kind of an item shows whether its length is indefinite.
-/

namespace Enrolment

namespace Cbor

/-- What the input is made of: heads of definite length, each with the content of a string, heads
of indefinite length, and breaks. -/
inductive Token
  | definite (major argument : Nat) (content : Bytes)
  | opening (major : Nat)
  | close
  deriving DecidableEq

/-- Strings have their content behind the head. -/
def IsString (major : Nat) : Prop := major = majorBytes ∨ major = majorText

instance : DecidablePred IsString := fun major =>
  inferInstanceAs (Decidable (major = majorBytes ∨ major = majorText))

/-- The item that begins here has an indefinite length. -/
def Token.Opens (t : Token) : Prop := ∃ major, t = .opening major

/-- The bytes that spell a token. -/
inductive Token.Spells : Token → Bytes → Prop
  | string {major : Nat} {content head : Bytes} (hmajor : IsString major)
      (hhead : Head major content.length head) :
      Spells (.definite major content.length content) (head ++ content)
  | head {major n : Nat} {head : Bytes} (hlt : major < 8) (hmajor : ¬ IsString major)
      (hhead : Head major n head) : Spells (.definite major n []) head
  | opening {major : Nat} (hlow : majorBytes ≤ major) (hhigh : major ≤ majorMap) :
      Spells (.opening major) [firstByte major indefinite]
  | close : Spells .close [breakByte]

/-- The bytes spell the tokens, one after the other. -/
inductive Tokens : List Token → Bytes → Prop
  | nil : Tokens [] []
  | cons {t : Token} {ts : List Token} {b b' : Bytes} (first : t.Spells b) (rest : Tokens ts b') :
      Tokens (t :: ts) (b ++ b')

theorem Tokens.append {ts ts' : List Token} {b b' : Bytes} (h : Tokens ts b) (h' : Tokens ts' b') :
    Tokens (ts ++ ts') (b ++ b') := by
  induction h with
  | nil => exact h'
  | cons first _ ih => rw [List.append_assoc]; exact .cons first ih

theorem Token.Spells.tokens {t : Token} {b : Bytes} (h : t.Spells b) : Tokens [t] b := by
  have hsingle := Tokens.cons h .nil
  rwa [List.append_nil] at hsingle

/-! ## One way to read them -/

theorem IsString.lt {major : Nat} (h : IsString major) : major < 8 := by
  obtain rfl | rfl := h <;> decide

/-- A head is read in one way only. -/
theorem Head.unique {major major' n n' : Nat} {b b' r r' : Bytes} (hlt : major < 8)
    (hlt' : major' < 8) (h : Head major n b) (h' : Head major' n' b') (heq : b ++ r = b' ++ r') :
    major = major' ∧ n = n' ∧ r = r' := by
  obtain ⟨first, long, rfl, hparts⟩ := h.read hlt
  obtain ⟨first', long', rfl, hparts'⟩ := h'.read hlt'
  obtain ⟨rfl, hrest⟩ := List.cons.inj heq
  have hread := hparts.argument 0 0 r
  have hrest : long ++ r = long' ++ r' := hrest
  rw [hrest, hparts'.argument 0 0 r'] at hread
  simp only [Except.ok.injEq, Prod.mk.injEq, Cursor.mk.injEq] at hread
  exact ⟨hparts.major.symm.trans hparts'.major, hread.1.symm, hread.2.2.symm⟩

theorem Token.Spells.definite {major n : Nat} {content b : Bytes}
    (h : (Token.definite major n content).Spells b) :
    major < 8 ∧ ∃ head, Head major n head ∧ b = head ++ content ∧
      content.length = if IsString major then n else 0 := by
  cases h with
  | string hmajor hhead => exact ⟨hmajor.lt, _, hhead, rfl, (if_pos hmajor).symm⟩
  | head hlt hmajor hhead =>
    exact ⟨hlt, _, hhead, (List.append_nil b).symm, (if_neg hmajor).symm⟩

/-- What the first byte of a token says about it. -/
def Token.BeginsWith : Token → UInt8 → Prop
  | definite .., first => infoOf first < 28
  | opening major, first =>
    majorOf first = major ∧ infoOf first = indefinite ∧ first ≠ breakByte
  | close, first => first = breakByte

theorem Token.Spells.first {t : Token} {b : Bytes} (h : t.Spells b) :
    ∃ first more, b = first :: more ∧ t.BeginsWith first := by
  cases t with
  | definite major n content =>
    obtain ⟨hlt, head, hhead, rfl, -⟩ := h.definite
    obtain ⟨first, long, rfl, hparts⟩ := hhead.read hlt
    exact ⟨first, long ++ content, rfl, hparts.info⟩
  | opening major =>
    cases h with
    | opening hlow hhigh => exact ⟨_, [], rfl, firstByte_indefinite (Nat.lt_succ_of_le hhigh)⟩
  | close =>
    cases h
    exact ⟨breakByte, [], rfl, rfl⟩

theorem Token.Spells.unique {t t' : Token} {b b' r r' : Bytes} (h : t.Spells b)
    (h' : t'.Spells b') (heq : b ++ r = b' ++ r') : t = t' ∧ r = r' := by
  have hbreak : infoOf breakByte = 31 := rfl
  obtain ⟨first, more, hb, hfirst⟩ := h.first
  obtain ⟨first', more', hb', hfirst'⟩ := h'.first
  obtain rfl : first = first' := by
    rw [hb, hb'] at heq
    exact (List.cons.inj heq).1
  cases t <;> cases t' <;> simp only [BeginsWith, indefinite] at hfirst hfirst'
  case definite.definite major n content major' n' content' =>
    obtain ⟨hlt, head, hhead, rfl, hlen⟩ := h.definite
    obtain ⟨hlt', head', hhead', rfl, hlen'⟩ := h'.definite
    rw [List.append_assoc, List.append_assoc] at heq
    obtain ⟨rfl, rfl, hrest⟩ := hhead.unique hlt hlt' hhead' heq
    obtain ⟨rfl, rfl⟩ := List.append_inj hrest (hlen.trans hlen'.symm)
    exact ⟨rfl, rfl⟩
  case opening.opening major major' =>
    obtain rfl := hfirst.1.symm.trans hfirst'.1
    cases h
    cases h'
    exact ⟨rfl, (List.cons.inj heq).2⟩
  case close.close =>
    cases h
    cases h'
    exact ⟨rfl, (List.cons.inj heq).2⟩
  all_goals
    exfalso
    grind

theorem Tokens.unique {ts ts' : List Token} {b : Bytes} (h : Tokens ts b) (h' : Tokens ts' b) :
    ts = ts' := by
  induction h generalizing ts' with
  | nil =>
    generalize hb : ([] : Bytes) = b at h'
    cases h' with
    | nil => rfl
    | cons first _ =>
      obtain ⟨_, _, rfl, -⟩ := first.first
      cases hb
  | @cons t ts b₁ b₂ first _ ih =>
    generalize hb : b₁ ++ b₂ = b at h'
    cases h' with
    | nil =>
      obtain ⟨_, _, rfl, -⟩ := first.first
      cases hb
    | cons first' rest' =>
      obtain ⟨rfl, rfl⟩ := first.unique first' hb
      rw [ih rest']

/-- Somewhere in the bytes an item of indefinite length begins. -/
def HasIndefinite (b : Bytes) : Prop := ∃ ts, Tokens ts b ∧ ∃ t ∈ ts, t.Opens

theorem Tokens.hasIndefinite_iff {ts : List Token} {b : Bytes} (h : Tokens ts b) :
    HasIndefinite b ↔ ∃ t ∈ ts, t.Opens := by
  refine ⟨?_, fun hopens => ⟨ts, h, hopens⟩⟩
  rintro ⟨ts', h', hopens⟩
  rwa [h.unique h']

/-! ## What the readers take -/

/-- The tokens stand between the two cursors. -/
def Between (ts : List Token) (c c' : Cursor) : Prop := ∃ b, Tokens ts b ∧ c.rest = b ++ c'.rest

section Readers

variable {major n : Nat} {ts ts' : List Token} {c c' c'' : Cursor}

theorem Between.nil (c : Cursor) : Between [] c c := ⟨[], .nil, rfl⟩

theorem Between.append (h : Between ts c c') (h' : Between ts' c' c'') :
    Between (ts ++ ts') c c'' := by
  obtain ⟨b, htokens, hrest⟩ := h
  obtain ⟨b', htokens', hrest'⟩ := h'
  exact ⟨b ++ b', htokens.append htokens', by rw [hrest, hrest', List.append_assoc]⟩

theorem Token.Spells.between {t : Token} {b : Bytes} (h : t.Spells b)
    (hrest : c.rest = b ++ c'.rest) : Between [t] c c' :=
  ⟨b, h.tokens, hrest⟩

/-- The text, with a definite length. -/
def textToken (s : String) : Token := .definite majorText (utf8 s).length (utf8 s)

theorem text_between {s : String} (h : text c = .ok (s, c')) : Between [textToken s] c c' := by
  obtain ⟨head, hhead, hrest⟩ := spelled_of_text h
  rw [← List.append_assoc] at hrest
  exact (Token.Spells.string (.inr rfl) hhead).between hrest

theorem definiteString_between {content : Bytes} (hmajor : IsString major)
    (h : definiteString major c = .ok (content, c')) :
    Between [.definite major content.length content] c c' := by
  obtain ⟨head, hhead, hrest⟩ := spelled_of_definiteString h
  rw [← List.append_assoc] at hrest
  exact (Token.Spells.string hmajor hhead).between hrest

theorem rest_of_byte {b : UInt8} (h : byte c = .ok (b, c')) : c.rest = b :: c'.rest := by
  obtain ⟨pos, rest⟩ := c
  cases rest with
  | nil => cases h
  | cons first rest => cases h; rfl

theorem majorOf_lt (b : UInt8) : majorOf b < 8 := by
  have := b.toNat_lt
  rw [majorOf]
  omega

/-- An argument behind a first byte makes a head. -/
theorem head_between {b : UInt8} {pos : Nat} (hmajor : ¬ IsString (majorOf b))
    (hbyte : byte c = .ok (b, c')) (h : argument (infoOf b) pos c' = .ok (n, c'')) :
    Between [.definite (majorOf b) n []] c c'' := by
  obtain ⟨long, hhead, hrest⟩ := Head.of_argument h
  refine (Token.Spells.head (majorOf_lt b) hmajor hhead).between ?_
  rw [rest_of_byte hbyte, hrest]
  rfl

theorem opening_between {b : UInt8} (hinfo : infoOf b = indefinite) (hlow : majorBytes ≤ majorOf b)
    (hhigh : majorOf b ≤ majorMap) (hbyte : byte c = .ok (b, c')) :
    Between [.opening (majorOf b)] c c' := by
  have hspells := Token.Spells.opening hlow hhigh
  rw [← hinfo, firstByte_of_byte] at hspells
  exact hspells.between (rest_of_byte hbyte)

/-- The first token of a container. -/
def containerToken (major : Nat) : Option Nat → Token
  | some n => .definite major n []
  | none => .opening major

theorem containerLength_between {length : Option Nat}
    (hmajor : major = majorArray ∨ major = majorMap)
    (h : containerLength major c = .ok (length, c')) :
    Between [containerToken major length] c c' := by
  obtain ⟨⟨b, c₁⟩, hbyte, h⟩ := ok_of_bind h
  simp only at h
  split at h
  · cases h
  · next hfirst =>
    have hfirst : majorOf b = major := Classical.not_not.1 hfirst
    rw [← hfirst] at hmajor ⊢
    split at h
    · next hinfo =>
      cases h
      refine opening_between hinfo ?_ ?_ hbyte <;>
        obtain hmajor | hmajor := hmajor <;> rw [hmajor] <;> decide
    · obtain ⟨⟨n, c₂⟩, hargument, h⟩ := ok_of_bind h
      cases h
      refine head_between ?_ hbyte hargument
      obtain hmajor | hmajor := hmajor <;> rw [hmajor]
      · exact array_ne_string
      · exact map_ne_string

/-! ## What is passed over -/

theorem skipChunks_between (hmajor : IsString major) (fuel : Nat)
    (h : skipChunks major fuel c = .ok c') : ∃ ts, Between ts c c' := by
  induction fuel generalizing c with
  | zero => cases h
  | succ fuel ih =>
    rw [skipChunks] at h
    split at h
    · cases h
    · next b rest hrest =>
      split at h
      · next hbreak =>
        cases h
        refine ⟨[.close], Token.Spells.close.between ?_⟩
        simp [Cursor.advance, hrest, hbreak]
      · obtain ⟨⟨content, c₁⟩, hchunk, h⟩ := ok_of_bind h
        obtain ⟨-, -, h⟩ := ok_of_bind h
        obtain ⟨ts, hts⟩ := ih h
        exact ⟨_, (definiteString_between hmajor hchunk).append hts⟩

theorem skipString_between (hmajor : IsString major)
    (hfirst : ∀ b c₁, byte c = .ok (b, c₁) → majorOf b = major)
    (h : skipString major c = .ok c') : ∃ t ts, Between (t :: ts) c c' := by
  obtain ⟨⟨b, c₁⟩, hbyte, h⟩ := ok_of_bind h
  obtain rfl := hfirst b c₁ hbyte
  simp only at h
  split at h
  · next hinfo =>
    obtain ⟨ts, hts⟩ := skipChunks_between hmajor _ h
    have hopening : Between [.opening (majorOf b)] c c₁ := by
      refine opening_between hinfo ?_ ?_ hbyte <;>
        obtain hmajor | hmajor := hmajor <;> rw [hmajor] <;> decide
    exact ⟨_, ts, hopening.append hts⟩
  · obtain ⟨⟨n, c₂⟩, hargument, h⟩ := ok_of_bind h
    obtain ⟨⟨content, c₃⟩, hcontent, h⟩ := ok_of_bind h
    obtain ⟨-, -, h⟩ := ok_of_bind h
    cases h
    obtain ⟨long, hhead, hrest⟩ := Head.of_argument hargument
    obtain ⟨rfl, hrest'⟩ := spelled_of_take hcontent
    refine ⟨_, [], (Token.Spells.string hmajor hhead).between ?_⟩
    rw [rest_of_byte hbyte, hrest, hrest']
    simp

theorem skipHead_between (hfirst : ∀ b c₁, byte c = .ok (b, c₁) → ¬ IsString (majorOf b))
    (h : skipHead c = .ok c') : ∃ t ts, Between (t :: ts) c c' := by
  obtain ⟨⟨b, c₁⟩, hbyte, h⟩ := ok_of_bind h
  obtain ⟨⟨n, c₂⟩, hargument, h⟩ := ok_of_bind h
  cases h
  exact ⟨_, [], head_between (hfirst b c₁ hbyte) hbyte hargument⟩

theorem skipContainer_between {perEntry : Nat} {p p' : Pending}
    (hmajor : major = majorArray ∨ major = majorMap)
    (h : skipContainer major perEntry p c = .ok (p', c')) : ∃ t ts, Between (t :: ts) c c' := by
  obtain ⟨⟨length, c₁⟩, hlength, h⟩ := ok_of_bind h
  have hts := containerLength_between hmajor hlength
  cases length <;> cases h <;> exact ⟨_, [], hts⟩

theorem skipStep_between {p p' : Pending} (h : skipStep p c = .ok (p', c')) :
    ∃ t ts, Between (t :: ts) c c' := by
  rw [skipStep] at h
  split at h
  · cases h
  · next b rest hrest =>
    have hfirst : ∀ b' c₁, byte c = .ok (b', c₁) → majorOf b' = majorOf b := by
      intro b' c₁ hbyte
      have := (rest_of_byte hbyte).symm.trans hrest
      cases this
      rfl
    split at h
    · next hbreak =>
      cases h
      refine ⟨.close, [], Token.Spells.close.between ?_⟩
      simp [Cursor.advance, hrest, hbreak]
    · simp only at h
      split at h
      · next hstring =>
        obtain ⟨c₁, hskip, h⟩ := ok_of_bind h
        cases h
        exact skipString_between hstring hfirst hskip
      · next hstring =>
        have hother : ∀ b' c₁, byte c = .ok (b', c₁) → ¬ IsString (majorOf b') :=
          fun b' c₁ hbyte => hfirst b' c₁ hbyte ▸ hstring
        split at h
        · next hmajor =>
          obtain ⟨⟨p₁, c₁⟩, hskip, h⟩ := ok_of_bind h
          cases h
          exact skipContainer_between (.inl hmajor) hskip
        · split at h
          · next hmajor =>
            obtain ⟨⟨p₁, c₁⟩, hskip, h⟩ := ok_of_bind h
            cases h
            exact skipContainer_between (.inr hmajor) hskip
          · split at h
            · cases h
            · split at h
              all_goals
                obtain ⟨c₁, hskip, h⟩ := ok_of_bind h
                cases h
                exact skipHead_between hother hskip

theorem skipLoop_between (fuel : Nat) (p : Pending) (h : skipLoop fuel p c = .ok c') :
    ∃ ts, Between ts c c' := by
  induction fuel generalizing p c with
  | zero => cases h
  | succ fuel ih =>
    rw [skipLoop] at h
    split at h
    · cases h
      exact ⟨[], .nil _⟩
    · obtain ⟨⟨p₁, c₁⟩, hstep, h⟩ := ok_of_bind h
      obtain ⟨t, ts, hts⟩ := skipStep_between hstep
      obtain ⟨ts', hts'⟩ := ih p₁ h
      exact ⟨_, hts.append hts'⟩

theorem skip_between (h : skip c = .ok c') : ∃ t ts, Between (t :: ts) c c' := by
  have hone : Pending.one.isDone ≠ true := by decide
  rw [skip, skipLoop, if_neg hone] at h
  obtain ⟨⟨p, c₁⟩, hstep, h⟩ := ok_of_bind h
  obtain ⟨t, ts, hts⟩ := skipStep_between hstep
  obtain ⟨ts', hts'⟩ := skipLoop_between _ p h
  exact ⟨t, ts ++ ts', hts.append hts'⟩

/-- The kind of an item that begins like this. -/
theorem kindAt_opening {k : Kind} (hts : Between (.opening major :: ts) c c')
    (h : kindAt c = .ok k) :
    k = .indefiniteText ∨ k = .indefiniteBytes ∨ k = .indefiniteArray ∨ k = .indefiniteMap := by
  obtain ⟨b, htokens, hrest⟩ := hts
  cases htokens with
  | cons hfirst _ =>
    cases hfirst with
    | opening hlow hhigh =>
      obtain ⟨hmajor, hinfo, -⟩ := firstByte_indefinite (Nat.lt_succ_of_le hhigh)
      simp only [kindAt, hrest, List.cons_append, List.nil_append] at h
      split at h
      · cases h
      · cases h
        simp only [Kind.ofByte, hinfo, hmajor, if_true]
        simp only [majorBytes, majorText, majorArray, majorMap] at hlow hhigh ⊢
        obtain rfl | rfl | rfl | rfl : major = 2 ∨ major = 3 ∨ major = 4 ∨ major = 5 := by omega
        all_goals simp

end Readers

end Cbor

end Enrolment

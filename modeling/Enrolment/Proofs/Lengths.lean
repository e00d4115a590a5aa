import Enrolment.Proofs.Prefixes
import Enrolment.Proofs.Response
import Enrolment.Proofs.Tokens

/-!
# Enrolment.Proofs.Lengths

Where an accepted response may have indefinite lengths. The map itself has a definite length, and
so have its keys, the values of known keys, the configuration with its keys and texts, and every
value that is passed over. What is inside a value that is passed over is not looked at: there
lengths may be indefinite, and that is the only place.

* `passDefinite_between`, `wholeMap_tokens`: a value that is passed over, and a whole map.
* `indefinite_only_inside_skipped`: both responses.
* `nested_indefinite_accepted`: a response with an indefinite length in an array under an unknown
  key, which is read.
* `passDefinite_written`: this is no exception, whatever the value is.
-/

namespace Enrolment

namespace Payload.Binary
open Cbor

/-! ## Values -/

/-- The tokens of a value that has been passed over. No indefinite length begins with the first. -/
structure Skipped where
  head : Token
  inside : List Token
  definite : ¬ head.Opens
  passed : ∃ c c', Cbor.skip c = .ok c' ∧ Between (head :: inside) c c'

/-- The value of an entry, either read or passed over. -/
inductive TakenValue
  | text (s : String)
  | skipped (v : Skipped)

namespace TakenValue

def tokens : TakenValue → List Token
  | text s => [textToken s]
  | skipped v => v.head :: v.inside

/-- What is behind the head of a value that has been passed over. -/
def inside : TakenValue → List Token
  | text _ => []
  | skipped v => v.inside

end TakenValue

/-- A map of definite length, with texts of definite length as keys. -/
def mapTokens {α : Type} (tokens : α → List Token) (entries : List (String × α)) : List Token :=
  .definite majorMap entries.length [] ::
    entries.flatMap fun e => textToken e.1 :: tokens e.2

/-- The value of an entry, or a map of such values. -/
inductive TakenField
  | value (v : TakenValue)
  | map (entries : List (String × TakenValue))

namespace TakenField

def tokens : TakenField → List Token
  | value v => v.tokens
  | map entries => mapTokens TakenValue.tokens entries

def inside : TakenField → List Token
  | value v => v.inside
  | map entries => entries.flatMap fun e => e.2.inside

end TakenField

/-- Something of indefinite length begins among the tokens. -/
def AnyOpens (ts : List Token) : Prop := ∃ t ∈ ts, t.Opens

theorem anyOpens_cons {t : Token} {ts : List Token} (h : ¬ t.Opens) :
    AnyOpens (t :: ts) ↔ AnyOpens ts := by
  simp [AnyOpens, h]

theorem anyOpens_flatMap {α : Type} {f : α → List Token} {l : List α} :
    AnyOpens (l.flatMap f) ↔ ∃ a ∈ l, AnyOpens (f a) := by
  simp only [AnyOpens, List.mem_flatMap]
  grind

theorem not_opens_definite (major n : Nat) (content : Bytes) :
    ¬ (Token.definite major n content).Opens := nofun

theorem TakenValue.anyOpens_tokens (v : TakenValue) : AnyOpens v.tokens ↔ AnyOpens v.inside := by
  cases v with
  | text s => exact anyOpens_cons (not_opens_definite _ _ _)
  | skipped v => exact anyOpens_cons v.definite

theorem anyOpens_mapTokens {α : Type} {tokens inside : α → List Token}
    (h : ∀ a, AnyOpens (tokens a) ↔ AnyOpens (inside a)) (entries : List (String × α)) :
    AnyOpens (mapTokens tokens entries) ↔ ∃ e ∈ entries, AnyOpens (inside e.2) := by
  rw [mapTokens, anyOpens_cons (not_opens_definite _ _ _), anyOpens_flatMap]
  refine exists_congr fun e => and_congr_right fun _ => ?_
  rw [textToken, anyOpens_cons (not_opens_definite _ _ _), h]

theorem TakenField.anyOpens_tokens (f : TakenField) : AnyOpens f.tokens ↔ AnyOpens f.inside := by
  cases f with
  | value v => exact v.anyOpens_tokens
  | map entries =>
    exact (anyOpens_mapTokens TakenValue.anyOpens_tokens entries).trans anyOpens_flatMap.symm

/-! ## Readers -/

section Readers

variable {c c' : Cursor}

theorem text_between {s : String} (h : text c = .ok (s, c')) : Between [textToken s] c c' := by
  obtain ⟨k, -, h⟩ := ok_of_bind h
  split at h
  · cases h
  · exact Cbor.text_between (ok_of_mapError h)

theorem entryCount_between {n : Nat} (h : entryCount c = .ok (n, c')) :
    Between [.definite majorMap n []] c c' := by
  obtain ⟨⟨length, c₁⟩, hlength, h⟩ := ok_of_bind h
  have hts := containerLength_between (.inr rfl) (ok_of_mapError hlength)
  cases length with
  | none => cases h
  | some n => cases h; exact hts

theorem passDefinite_between (h : passDefinite c = .ok c') :
    ∃ v : Skipped, Between (TakenValue.skipped v).tokens c c' := by
  obtain ⟨k, hkind, h⟩ := ok_of_bind h
  have hskip : skip c = .ok c' := by
    cases k <;> first | exact ok_of_mapError h | cases h
  obtain ⟨head, inside, hts⟩ := skip_between hskip
  refine ⟨⟨head, inside, ?_, c, c', hskip, hts⟩, hts⟩
  rintro ⟨major, rfl⟩
  obtain rfl | rfl | rfl | rfl := kindAt_opening hts (ok_of_mapError hkind) <;> cases h

section Maps

variable {σ α : Type} {step : σ → String → Reader σ} {tokens : α → List Token}
  {P : String → α → Prop}

/-- What a step reads are the tokens of a value that may stand under the key. -/
def ReadsValues (step : σ → String → Reader σ) (tokens : α → List Token) (P : String → α → Prop) :
    Prop :=
  ∀ s key c s' c', step s key c = .ok (s', c') → ∃ a, P key a ∧ Between (tokens a) c c'

theorem foldEntries_between (hstep : ReadsValues step tokens P)
    {n : Nat} {s s' : σ} (h : foldEntries step n s c = .ok (s', c')) :
    ∃ entries : List (String × α), entries.length = n ∧ (∀ e ∈ entries, P e.1 e.2) ∧
      Between (entries.flatMap fun e => textToken e.1 :: tokens e.2) c c' := by
  induction n generalizing s c with
  | zero =>
    cases h
    exact ⟨[], rfl, List.forall_mem_nil _, .nil _⟩
  | succ n ih =>
    obtain ⟨⟨key, c₁⟩, hkey, h⟩ := ok_of_bind h
    obtain ⟨⟨s₁, c₂⟩, hvalue, h⟩ := ok_of_bind h
    obtain ⟨a, ha, hts⟩ := hstep _ _ _ _ _ hvalue
    obtain ⟨entries, rfl, hentries, hrest⟩ := ih h
    refine ⟨(key, a) :: entries, rfl, List.forall_mem_cons.2 ⟨ha, hentries⟩, ?_⟩
    exact (text_between hkey).append (hts.append hrest)

theorem foldMap_between (hstep : ReadsValues step tokens P)
    {start s : σ} (h : foldMap step start c = .ok (s, c')) :
    ∃ entries : List (String × α), (∀ e ∈ entries, P e.1 e.2) ∧
      Between (mapTokens tokens entries) c c' := by
  obtain ⟨⟨n, c₁⟩, hcount, h⟩ := ok_of_bind h
  obtain ⟨entries, rfl, hentries, hrest⟩ := foldEntries_between hstep h
  exact ⟨entries, hentries, (entryCount_between hcount).append hrest⟩

theorem wholeMap_tokens (hstep : ReadsValues step tokens P)
    {start s : σ} {payload : Bytes} (h : wholeMap step start payload = .ok s) :
    ∃ entries : List (String × α), (∀ e ∈ entries, P e.1 e.2) ∧
      Tokens (mapTokens tokens entries) payload := by
  obtain ⟨c, hfold, hrest⟩ := wholeMap_eq_ok h
  obtain ⟨entries, hentries, b, htokens, hb⟩ := foldMap_between hstep hfold
  rw [hrest, List.append_nil] at hb
  exact ⟨entries, hentries, by rwa [← hb] at htokens⟩

end Maps

theorem textEntry_values : ReadsValues textEntry TakenValue.tokens fun _ _ => True := by
  intro m key c m' c' h
  obtain ⟨k, -, h⟩ := ok_of_bind h
  split at h
  · obtain ⟨⟨s, c₁⟩, htext, h⟩ := ok_of_bind h
    cases h
    exact ⟨.text s, trivial, Cbor.text_between (ok_of_mapError htext)⟩
  · obtain ⟨c₁, hpass, h⟩ := ok_of_bind h
    cases h
    obtain ⟨v, hv⟩ := passDefinite_between hpass
    exact ⟨.skipped v, trivial, hv⟩

theorem textMap_between {m : TextMap} (h : textMap c = .ok (m, c')) :
    ∃ entries : List (String × TakenValue), Between (mapTokens TakenValue.tokens entries) c c' := by
  obtain ⟨entries, -, hts⟩ := foldMap_between textEntry_values h
  exact ⟨entries, hts⟩

theorem text_of_take {σ : Type} (put : String → σ) {s : σ}
    (h : (do let (t, c) ← text c; return (put t, c)) = Except.ok (s, c')) :
    ∃ t, text c = .ok (t, c') := by
  obtain ⟨⟨t, c₁⟩, htext, h⟩ := ok_of_bind h
  cases h
  exact ⟨t, htext⟩

/-- Under a known key stands a text. -/
def CredentialValue (key : String) : TakenValue → Prop
  | .text _ => key ∈ credentialFields
  | .skipped _ => key ∉ credentialFields

theorem credentialEntry_values : ReadsValues credentialEntry TakenValue.tokens CredentialValue := by
  intro t key c t' c' h
  have htaken (hkey : key ∈ credentialFields) (h : ∃ s, text c = .ok (s, c')) :
      ∃ v, CredentialValue key v ∧ Between v.tokens c c' := by
    obtain ⟨s, htext⟩ := h
    exact ⟨.text s, hkey, text_between htext⟩
  unfold credentialEntry at h
  split at h
  · next hkey =>
    exact htaken (by simp [hkey, credentialFields])
      (text_of_take (fun s => { t with pem := some s }) h)
  · next hpem =>
    split at h
    · next hkey =>
      exact htaken (by simp [hkey, credentialFields])
        (text_of_take (fun s => { t with id := some s }) h)
    · next hid =>
      split at h
      · next hkey =>
        exact htaken (by simp [hkey, credentialFields])
          (text_of_take (fun s => { t with token := some s }) h)
      · next htoken =>
        obtain ⟨c₁, hpass, h⟩ := ok_of_bind h
        cases h
        obtain ⟨v, hv⟩ := passDefinite_between hpass
        exact ⟨.skipped v, by simp [CredentialValue, credentialFields, hpem, hid, htoken], hv⟩

/-- Under the key of the name stands a text, and under that of the configuration a map. -/
def RegistrationField (key : String) : TakenField → Prop
  | .value (.text _) => key = thingNameField
  | .map _ => key = configurationField
  | .value (.skipped _) => key ∉ registrationFields

theorem registrationEntry_values :
    ReadsValues registrationEntry TakenField.tokens RegistrationField := by
  intro found key c found' c' h
  unfold registrationEntry at h
  split at h
  · next hkey =>
    obtain ⟨s, htext⟩ := text_of_take (fun s => (some s, found.2)) h
    exact ⟨.value (.text s), hkey, text_between htext⟩
  · next hname =>
    split at h
    · next hkey =>
      obtain ⟨⟨m, c₁⟩, hmap, h⟩ := ok_of_bind h
      cases h
      obtain ⟨entries, hts⟩ := textMap_between hmap
      exact ⟨.map entries, hkey, hts⟩
    · next hconfiguration =>
      obtain ⟨c₁, hpass, h⟩ := ok_of_bind h
      cases h
      obtain ⟨v, hv⟩ := passDefinite_between hpass
      exact ⟨.value (.skipped v), by simp [RegistrationField, registrationFields, hname,
        hconfiguration], hv⟩

end Readers

/-! ## Responses -/

/-- The payload is a map of these entries, and an item of indefinite length is in it exactly if
there is one inside a value that was passed over. -/
structure MadeOf {α : Type} (tokens inside : α → List Token) (P : String → α → Prop)
    (entries : List (String × α)) (payload : Bytes) : Prop where
  tokens : Tokens (mapTokens tokens entries) payload
  values : ∀ e ∈ entries, P e.1 e.2
  indefinite : HasIndefinite payload ↔ ∃ e ∈ entries, AnyOpens (inside e.2)

/-- Whatever is accepted has indefinite lengths only inside the values that were passed over. -/
theorem indefinite_only_inside_skipped (limits : FieldLimits) (payload : Bytes) :
    (∀ c, (Codec.standard limits .cbor).readCredential payload = .ok c →
      ∃ entries, MadeOf TakenValue.tokens TakenValue.inside CredentialValue entries payload) ∧
    (∀ r, (Codec.standard limits .cbor).readRegistration payload = .ok r →
      ∃ entries, MadeOf TakenField.tokens TakenField.inside RegistrationField entries payload) := by
  constructor
  · intro c h
    obtain ⟨texts, hmap, -⟩ := ok_of_bind h
    obtain ⟨entries, hvalues, htokens⟩ := wholeMap_tokens credentialEntry_values hmap
    exact ⟨entries, htokens, hvalues,
      htokens.hasIndefinite_iff.trans (anyOpens_mapTokens TakenValue.anyOpens_tokens entries)⟩
  · intro r h
    obtain ⟨⟨name, configuration⟩, hmap, -⟩ := ok_of_bind h
    obtain ⟨entries, hvalues, htokens⟩ := wholeMap_tokens registrationEntry_values hmap
    exact ⟨entries, htokens, hvalues,
      htokens.hasIndefinite_iff.trans (anyOpens_mapTokens TakenField.anyOpens_tokens entries)⟩

/-- A payload that answers both requests. The value of an unknown key is an array of one array, and
the inner one has an indefinite length. -/
def nestedAnswer : Bytes :=
  writeMapHead 5 ++ (writeText "x" ++ [0x81, 0x9f, 0x01, 0xff]) ++ answerFields.flatMap writeEntry

theorem nestedAnswer_madeOf :
    ((Codec.standard .standard .cbor).readCredential nestedAnswer = .ok ⟨"pem", "id", "token"⟩ ∧
      ∃ entries, MadeOf TakenValue.tokens TakenValue.inside CredentialValue entries nestedAnswer) ∧
    ((Codec.standard .standard .cbor).readRegistration nestedAnswer = .ok ⟨"thing", .empty⟩ ∧
      ∃ entries,
        MadeOf TakenField.tokens TakenField.inside RegistrationField entries nestedAnswer) :=
  have hcredential : (Codec.standard .standard .cbor).readCredential nestedAnswer =
      .ok ⟨"pem", "id", "token"⟩ := by rfl
  have hregistration : (Codec.standard .standard .cbor).readRegistration nestedAnswer =
      .ok ⟨"thing", .empty⟩ := by rfl
  ⟨⟨hcredential, (indefinite_only_inside_skipped .standard nestedAnswer).1 _ hcredential⟩,
    ⟨hregistration, (indefinite_only_inside_skipped .standard nestedAnswer).2 _ hregistration⟩⟩

theorem tokens_writeText {s : String} (h : (utf8 s).length < 0x10000000000000000) :
    Tokens [textToken s] (writeText s) :=
  (Token.Spells.string (.inr rfl) (head_spelled majorText h)).tokens

theorem tokens_writeEntries {entries : List (String × String)}
    (h : ∀ e ∈ entries, (utf8 e.1).length < 0x10000000000000000 ∧
      (utf8 e.2).length < 0x10000000000000000) :
    Tokens (entries.flatMap fun e => [textToken e.1, textToken e.2])
      (entries.flatMap writeEntry) := by
  induction entries with
  | nil => exact .nil
  | cons e rest ih =>
    obtain ⟨⟨hkey, hvalue⟩, hrest⟩ := List.forall_mem_cons.1 h
    exact ((tokens_writeText hkey).append (tokens_writeText hvalue)).append (ih hrest)

/-- An array of indefinite length below another one is in the payload, and both responses are
read. -/
theorem nested_indefinite_accepted :
    HasIndefinite nestedAnswer ∧
      (Codec.standard .standard .cbor).readCredential nestedAnswer = .ok ⟨"pem", "id", "token"⟩ ∧
      (Codec.standard .standard .cbor).readRegistration nestedAnswer = .ok ⟨"thing", .empty⟩ := by
  have hmap : Tokens [.definite majorMap 5 []] (writeMapHead 5) :=
    (Token.Spells.head (by decide) map_ne_string (head_spelled majorMap (by decide))).tokens
  have houter : Token.Spells (.definite majorArray 1 []) [0x81] :=
    .head (by decide) array_ne_string (.short (by decide))
  have hinner : Token.Spells (.opening majorArray) [0x9f] := .opening (by decide) (by decide)
  have hone : Token.Spells (.definite 0 1 []) [0x01] :=
    .head (by decide) (by decide) (.short (by decide))
  have hvalue := Tokens.cons houter (.cons hinner (.cons hone (.cons .close .nil)))
  have hrest : Tokens _ (answerFields.flatMap writeEntry) := tokens_writeEntries (by decide)
  have hall := (hmap.append ((tokens_writeText (s := "x") (by decide)).append hvalue)).append hrest
  exact ⟨⟨_, hall, .opening majorArray, by simp, majorArray, rfl⟩, by rfl, by rfl⟩

/-- A value is passed over if its own length is definite, and its texts are in UTF-8, whatever
lengths there are inside it. -/
theorem passDefinite_written {item : Item} {b tail : Bytes} {c : Cursor}
    (h : Writes true [.item item] b) (hlen : b.length ≤ Pending.maxCount)
    (hdefinite : ∀ major more, b ≠ firstByte major indefinite :: more)
    (hrest : c.rest = b ++ tail) : ∃ c', passDefinite c = .ok c' ∧ c'.rest = tail := by
  obtain ⟨c', hskip, hc', -⟩ | ⟨hlax, -⟩ := skip_returns h hlen hrest
  · refine ⟨c', ?_, hc'⟩
    have hkind : Cbor.kindAt c = .ok item.kind := by
      cases h with
      | definite hhead _ _ =>
        rw [List.append_assoc, List.append_assoc] at hrest
        obtain ⟨first, c₁, c₂, c₃, hopens, -⟩ := hhead.opens _ hrest
        exact hopens.kindAt
      | chunked _ _ _ | opened _ _ => exact absurd rfl (hdefinite _ _)
    have hkind : kind c = .ok item.kind := by rw [kind, hkind]; rfl
    cases item <;>
      simp [passDefinite, hkind, Item.kind, pass, hskip, Except.mapError, bind, Except.bind]
  · cases hlax

end Payload.Binary

end Enrolment

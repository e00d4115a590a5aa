import Enrolment.Topic
import Mathlib.Data.List.Basic

/-!
# Enrolment.Proofs.Topics

A topic is recognised as an answer exactly if it is the topic of an answer to some request, and what
is recognised is that request. Recognising takes a topic apart from its end, and a template is what
is left between two fixed texts. It may be any level, one that reads like a fixed level included:
as it holds no separator, there is one way to put a topic together, and the number of levels tells
where the template stands.

* `Text.split_eq_iff`: the pieces of a text, as the only ones that it is joined of.
* `TopicMatch.ofTopic?_eq_some_iff`: recognising is the inverse of building.
* `TopicMatch.ofTopic?_eq_ofLevels?`: a topic is the same read from its end and by its levels.
* `answers_recognised_exactly`: what follows for the two ways to recognise an answer, for requests,
  and for template names that pass the check.
-/

namespace Enrolment

/-! ## Levels -/

namespace Text

/-- The pieces with `sep` between them, as one text. -/
def join (sep : Char) (pieces : List String) : String :=
  String.ofList (joinChars sep (pieces.map String.toList))

theorem split_eq_iff {sep : Char} {s : String} {pieces : List String} :
    split sep s = pieces ↔
      pieces ≠ [] ∧ (∀ p ∈ pieces, sep ∉ p.toList) ∧ s = join sep pieces := by
  constructor
  · rintro rfl
    have hchars : (split sep s).map String.toList = splitChars sep s.toList := by
      simp [split, Function.comp_def]
    refine ⟨?_, fun p hp => ?_, ?_⟩
    · simpa [split] using splitChars_ne_nil sep s.toList
    · exact sep_not_mem_split (hchars ▸ List.mem_map_of_mem hp)
    · rw [join, hchars, join_split, String.ofList_toList]
  · rintro ⟨hne, hsep, rfl⟩
    have hsplit : splitChars sep (joinChars sep (pieces.map String.toList)) =
        pieces.map String.toList :=
      split_join (List.forall_mem_map.2 hsep) (by simpa using hne)
    rw [split, join, String.toList_ofList, hsplit, List.map_map]
    simp [Function.comp_def]

end Text

namespace Text

theorem cutLast?_eq_some_iff {sep : Char} {s before after : String} :
    cutLast? sep s = some (before, after) ↔
      s = before ++ String.singleton sep ++ after ∧ sep ∉ after.toList := by
  simp only [cutLast?, Option.map_eq_some_iff, Prod.mk.injEq, Prod.exists,
    cutLastChars?_eq_some_iff]
  constructor
  · rintro ⟨cs, ds, ⟨hs, hnot⟩, rfl, rfl⟩
    refine ⟨?_, by simpa using hnot⟩
    rw [← String.toList_inj, hs]
    simp
  · rintro ⟨rfl, hnot⟩
    exact ⟨before.toList, after.toList, ⟨by simp, hnot⟩, by simp⟩

theorem behind?_eq_some_iff {head s rest : String} :
    behind? head s = some rest ↔ s = head ++ rest := by
  simp only [behind?, Option.map_eq_some_iff, List.isPrefixOf?_eq_some_iff_append_eq]
  constructor
  · rintro ⟨cs, hs, rfl⟩
    rw [← String.toList_inj, ← hs]
    simp
  · rintro rfl
    exact ⟨rest.toList, by simp, by simp⟩

theorem before?_eq_some_iff {tail s rest : String} :
    before? tail s = some rest ↔ s = rest ++ tail := by
  simp only [before?, Option.map_eq_some_iff, List.isSuffixOf?_eq_some_iff_append_eq]
  constructor
  · rintro ⟨cs, hs, rfl⟩
    rw [← String.toList_inj, ← hs]
    simp
  · rintro rfl
    exact ⟨rest.toList, by simp, by simp⟩

end Text

theorem PayloadFormat.ofLevel?_eq_some_iff {s : String} {f : PayloadFormat} :
    ofLevel? s = some f ↔ s = f.level := by
  constructor
  · intro h
    unfold ofLevel? at h
    split at h
    · next hs => cases h; exact hs
    · split at h
      · next hs => cases h; exact hs
      · cases h
  · rintro rfl
    exact ofLevel?_level f

theorem Disposition.ofLevel?_eq_some_iff {s : String} {d : Disposition} :
    ofLevel? s = some d ↔ s = d.level := by
  constructor
  · intro h
    unfold ofLevel? at h
    split at h
    · next hs => cases h; exact hs
    · split at h
      · next hs => cases h; exact hs
      · cases h
  · rintro rfl
    exact ofLevel?_level d

/-- The text is one level of a topic, and not an empty one. -/
def IsLevel (s : String) : Prop := s ≠ "" ∧ '/' ∉ s.toList

/-- The levels of the topic of an answer. -/
def answerLevels (f : PayloadFormat) (d : Disposition) : Option String → List String
  | none => ["$aws", "certificates", "create-from-csr", f.level, d.level]
  | some template => ["$aws", "provisioning-templates", template, "provision", f.level, d.level]

theorem slash_not_mem_answerLevels {template : Option String}
    (h : ∀ t ∈ template, '/' ∉ t.toList) (f : PayloadFormat) (d : Disposition) :
    ∀ level ∈ answerLevels f d template, '/' ∉ level.toList := by
  cases template with
  | none => cases f <;> cases d <;> decide
  | some t =>
    have ht := h t rfl
    cases f <;> cases d <;>
      simpa [answerLevels, PayloadFormat.level, Disposition.level] using ht

/-- The topic of an answer, before its format. -/
def answerBase (template : Option String) : String :=
  template.elim "$aws/certificates/create-from-csr" fun t =>
    "$aws/provisioning-templates/" ++ t ++ "/provision"

theorem answerBase_ne (template : String) :
    answerBase (some template) ≠ "$aws/certificates/create-from-csr" := by
  rw [Ne, ← String.toList_inj]
  simp [answerBase]

/-! ## Requests -/

/-- The topics of a request, with the step, the format and the template that they name. -/
inductive Names : Topics → Step → PayloadFormat → Option String → Prop
  | createCertificate (f : PayloadFormat) :
      Names (.createCertificate f) .createCertificate f none
  | registerThing (f : PayloadFormat) {template : String} (level : IsLevel template) :
      Names (.registerThing template f) .registerThing f (some template)

namespace Names

variable {topics topics' : Topics} {step step' : Step} {f f' : PayloadFormat}
  {template template' : Option String}

theorem unique (h : Names topics step f template) (h' : Names topics' step f template) :
    topics = topics' := by
  cases h <;> cases h' <;> rfl

theorem response_eq (h : Names topics step f template) (d : Disposition) :
    topics.response d = answerBase template ++ "/" ++ f.level ++ "/" ++ d.level := by
  rw [← String.toList_inj]
  cases h <;> cases d <;>
    simp [Topics.createCertificate, Topics.registerThing, Topics.ofBase, Topics.response,
      answerBase, Disposition.level]

theorem response_eq_join (h : Names topics step f template) (d : Disposition) :
    topics.response d = Text.join '/' (answerLevels f d template) := by
  rw [← String.toList_inj, h.response_eq d]
  cases template <;> simp [answerBase, answerLevels, Text.join, Text.joinChars]

theorem slash_not_mem (h : Names topics step f template) : ∀ t ∈ template, '/' ∉ t.toList := by
  cases h with
  | createCertificate => exact nofun
  | registerThing _ level => exact fun t ht => Option.some.inj ht ▸ level.2

theorem split_eq_iff (h : Names topics step f template) {topic : String} {d : Disposition} :
    Text.split '/' topic = answerLevels f d template ↔ topic = topics.response d := by
  have hlevels := slash_not_mem_answerLevels h.slash_not_mem f d
  have hne : answerLevels f d template ≠ [] := by cases template <;> exact nofun
  rw [Text.split_eq_iff, h.response_eq_join d]
  exact ⟨fun hsplit => hsplit.2.2, fun htopic => ⟨hne, hlevels, htopic⟩⟩

end Names

/-! ## Recognising -/

theorem Topics.template?_eq_some_iff {base t : String} :
    template? base = some t ↔
      base = "$aws/provisioning-templates/" ++ t ++ "/provision" ∧ IsLevel t := by
  -- The same text, in the pieces that it is taken apart into.
  have hbase : base = "$aws/provisioning-templates/" ++ t ++ "/provision" ↔
      base = "$aws/provisioning-templates" ++ ("/" ++ ((t ++ "/") ++ "provision")) := by
    simp only [← String.toList_inj, String.toList_append]
    simp
  simp only [template?, bind, Option.bind_eq_some_iff, Text.behind?_eq_some_iff,
    Text.before?_eq_some_iff, hbase]
  constructor
  · rintro ⟨_, rfl, _, rfl, _, rfl, _, rfl, h⟩
    split at h
    · cases h
    · next hlevel =>
      cases h
      exact ⟨rfl, not_or.1 hlevel⟩
  · rintro ⟨rfl, hlevel⟩
    exact ⟨_, rfl, _, rfl, _, rfl, t, rfl, if_neg (not_or.2 hlevel)⟩

/-- Reading from the end takes a topic apart where building put it together. -/
theorem TopicMatch.ofTopic?_eq_some_iff {topic : String} {m : TopicMatch} :
    ofTopic? topic = some m ↔
      ∃ topics, Names topics m.step m.format m.template ∧
        topic = topics.response m.disposition := by
  obtain ⟨step, f, d, template⟩ := m
  simp only [ofTopic?, bind, Option.bind_eq_some_iff, Prod.exists, Text.cutLast?_eq_some_iff,
    Disposition.ofLevel?_eq_some_iff, PayloadFormat.ofLevel?_eq_some_iff]
  constructor
  · rintro ⟨_, _, ⟨rfl, -⟩, d', rfl, base, _, ⟨rfl, -⟩, f', rfl, h⟩
    split at h
    · next hbase =>
      cases h
      exact ⟨_, .createCertificate f, by rw [(Names.createCertificate f).response_eq, hbase]; rfl⟩
    · obtain ⟨t, ht, h⟩ := Option.bind_eq_some_iff.1 h
      cases h
      obtain ⟨hbase, hlevel⟩ := Topics.template?_eq_some_iff.1 ht
      have hnames := Names.registerThing f hlevel
      exact ⟨_, hnames, by rw [hnames.response_eq, hbase]; rfl⟩
  · rintro ⟨topics, hnames, rfl⟩
    rw [hnames.response_eq]
    -- Disposition and format are words, so the separators before them are the last ones.
    refine ⟨_, _, ⟨rfl, ?_⟩, d, rfl, answerBase template, _, ⟨rfl, ?_⟩, f, rfl, ?_⟩
    · cases d <;> decide
    · cases f <;> decide
    · cases hnames with
      | createCertificate => rfl
      | @registerThing _ t level =>
        have ht : Topics.template? (answerBase (some t)) = some t :=
          Topics.template?_eq_some_iff.2 ⟨rfl, level⟩
        rw [if_neg (answerBase_ne t), ht]
        rfl

/-- The answer that `topic` belongs to, by its levels in order. -/
def TopicMatch.ofLevels? (topic : String) : Option TopicMatch :=
  match Text.split '/' topic with
  | ["$aws", "certificates", "create-from-csr", format, disposition] => do
    let d ← Disposition.ofLevel? disposition
    let f ← PayloadFormat.ofLevel? format
    return ⟨.createCertificate, f, d, none⟩
  | ["$aws", "provisioning-templates", template, "provision", format, disposition] => do
    let d ← Disposition.ofLevel? disposition
    let f ← PayloadFormat.ofLevel? format
    if template = "" then none
    else return ⟨.registerThing, f, d, some template⟩
  | _ => none

/-- Which levels are recognised, and as what. -/
theorem TopicMatch.ofLevels?_eq_some_iff_split {topic : String} {m : TopicMatch} :
    ofLevels? topic = some m ↔
      (m.step = .createCertificate ∧ m.template = none ∨
        m.step = .registerThing ∧ ∃ t, m.template = some t ∧ t ≠ "") ∧
      Text.split '/' topic = answerLevels m.format m.disposition m.template := by
  obtain ⟨step, f, d, template⟩ := m
  constructor
  · intro h
    unfold ofLevels? at h
    split at h
    · next format disposition hsplit =>
      simp only [bind, Option.bind_eq_some_iff, pure, Option.some.injEq, mk.injEq] at h
      obtain ⟨d', hd, f', hf, rfl, rfl, rfl, rfl⟩ := h
      rw [Disposition.ofLevel?_eq_some_iff] at hd
      rw [PayloadFormat.ofLevel?_eq_some_iff] at hf
      exact ⟨.inl ⟨rfl, rfl⟩, by rw [hsplit, hd, hf]; rfl⟩
    · next t format disposition hsplit =>
      simp only [bind, Option.bind_eq_some_iff] at h
      obtain ⟨d', hd, f', hf, h⟩ := h
      split at h
      · cases h
      · next ht =>
        simp only [pure, Option.some.injEq, mk.injEq] at h
        obtain ⟨rfl, rfl, rfl, rfl⟩ := h
        rw [Disposition.ofLevel?_eq_some_iff] at hd
        rw [PayloadFormat.ofLevel?_eq_some_iff] at hf
        exact ⟨.inr ⟨rfl, t, rfl, ht⟩, by rw [hsplit, hd, hf]; rfl⟩
    · cases h
  · rintro ⟨⟨rfl, rfl⟩ | ⟨rfl, t, rfl, ht⟩, hsplit⟩
    · simp only [answerLevels] at hsplit
      simp [ofLevels?, hsplit, Disposition.ofLevel?_level, PayloadFormat.ofLevel?_level]
    · simp only [answerLevels] at hsplit
      simp [ofLevels?, hsplit, Disposition.ofLevel?_level, PayloadFormat.ofLevel?_level, ht]

theorem TopicMatch.ofLevels?_eq_some_iff {topic : String} {m : TopicMatch} :
    ofLevels? topic = some m ↔
      ∃ topics, Names topics m.step m.format m.template ∧
        topic = topics.response m.disposition := by
  rw [ofLevels?_eq_some_iff_split]
  obtain ⟨step, f, d, template⟩ := m
  constructor
  · rintro ⟨⟨rfl, rfl⟩ | ⟨rfl, t, rfl, ht⟩, hsplit⟩
    · exact ⟨_, .createCertificate f, (Names.createCertificate f).split_eq_iff.1 hsplit⟩
    · have hslash : '/' ∉ t.toList :=
        (Text.split_eq_iff.1 hsplit).2.1 t (by simp [answerLevels])
      have hnames := Names.registerThing f ⟨ht, hslash⟩
      exact ⟨_, hnames, hnames.split_eq_iff.1 hsplit⟩
  · rintro ⟨topics, hnames, htopic⟩
    refine ⟨?_, hnames.split_eq_iff.2 htopic⟩
    cases hnames with
    | createCertificate => exact .inl ⟨rfl, rfl⟩
    | registerThing _ level => exact .inr ⟨rfl, _, rfl, level.1⟩

/-- From the end or from the beginning, a topic reads the same. -/
theorem TopicMatch.ofTopic?_eq_ofLevels? (topic : String) : ofTopic? topic = ofLevels? topic :=
  Option.ext fun _ => ofTopic?_eq_some_iff.trans ofLevels?_eq_some_iff.symm

theorem Names.exists_base {topics : Topics} {step : Step} {f : PayloadFormat}
    {template : Option String} (h : Names topics step f template) :
    ∃ base, topics = .ofBase base := by
  cases h <;> exact ⟨_, rfl⟩

theorem Topics.accepted_ne_rejected (base : String) :
    (ofBase base).accepted ≠ (ofBase base).rejected := by
  intro h
  have hlevels := (String.append_right_inj base).1 h
  exact absurd hlevels (by decide)

theorem Names.dispositionOf_eq_some_iff {topics : Topics} {step : Step} {f : PayloadFormat}
    {template : Option String} (h : Names topics step f template) {topic : String}
    {d : Disposition} : topics.dispositionOf topic = some d ↔ topic = topics.response d := by
  obtain ⟨base, rfl⟩ := h.exists_base
  have hne := Topics.accepted_ne_rejected base
  cases d <;> grind [Topics.dispositionOf, Topics.response]

/-- A request topic ends in its format, and the topic of an answer does not. -/
theorem TopicMatch.ofTopic?_publish (template : String) (f : PayloadFormat) :
    ofTopic? (Topics.createCertificate f).publish = none ∧
      ofTopic? (Topics.registerThing template f).publish = none := by
  have hformat (base : String) : ofTopic? (base ++ f.level) = none := by
    rw [Option.eq_none_iff_forall_ne_some]
    intro m hm
    obtain ⟨topics, hnames, htopic⟩ := ofTopic?_eq_some_iff.1 hm
    obtain ⟨base', rfl⟩ := hnames.exists_base
    have hlast := congrArg (fun s : String => s.toList.getLast?) htopic
    cases f <;> cases hd : m.disposition <;>
      simp [hd, Topics.ofBase, Topics.response, PayloadFormat.level] at hlast
  exact ⟨hformat _, hformat _⟩

/-! ## Template names -/

theorem isTemplateNameChar_of_checkTemplateName {name : String}
    (h : checkTemplateName name = .ok ()) :
    name ≠ "" ∧ ∀ c ∈ name.toList, isTemplateNameChar c = true := by
  unfold checkTemplateName at h
  split at h
  · cases h
  · next hne =>
    split at h
    · cases h
    · split at h
      · cases h
      · next hfind =>
        refine ⟨hne, fun c hc => ?_⟩
        simpa using List.find?_eq_none.1 hfind c hc

/-- Characters that a filter does not take for themselves. -/
def wildcards : List Char := ['+', '#']

/-- A name that passes the check is one level, and makes no filter of a topic. -/
theorem level_of_checkTemplateName {name : String} (h : checkTemplateName name = .ok ()) :
    IsLevel name ∧ ∀ f, ∀ topic ∈
      (Topics.registerThing name f).publish :: (Topics.registerThing name f).responseFilters,
      ∀ c ∈ topic.toList, c ∉ wildcards := by
  obtain ⟨hne, hchars⟩ := isTemplateNameChar_of_checkTemplateName h
  have hlevel : IsLevel name := ⟨hne, fun hslash => absurd (hchars _ hslash) (by decide)⟩
  refine ⟨hlevel, fun f topic htopic c hc hw => ?_⟩
  have hname : c ∉ name.toList := fun hmem => by
    obtain rfl | rfl : c = '+' ∨ c = '#' := by simpa [wildcards] using hw
    all_goals exact absurd (hchars _ hmem) (by decide)
  have hfixed : ∀ s ∈ ["$aws/provisioning-templates/", "/provision/", f.level, "/accepted",
      "/rejected"], c ∉ s.toList := by
    obtain rfl | rfl : c = '+' ∨ c = '#' := by simpa [wildcards] using hw
    all_goals cases f <;> decide
  simp only [Topics.responseFilters, Topics.registerThing, Topics.ofBase, List.mem_cons,
    List.not_mem_nil, or_false] at htopic
  obtain rfl | rfl | rfl := htopic <;> simp_all [String.toList_append]

/-- Recognising an answer to any request is the inverse of building the topics of one. So it agrees
with recognising an answer to this one request, two requests have no answer in common, no request
is taken for an answer, and a template name that passes the check is as good as any. -/
theorem answers_recognised_exactly :
    (∀ topic m, TopicMatch.ofTopic? topic = some m ↔
      ∃ topics, Names topics m.step m.format m.template ∧
        topic = topics.response m.disposition) ∧
      (∀ {topics step f template}, Names topics step f template → ∀ topic d,
        topics.dispositionOf topic = some d ↔
          TopicMatch.ofTopic? topic = some ⟨step, f, d, template⟩) ∧
      (∀ {topics topics' step step' f f' template template'}, Names topics step f template →
        Names topics' step' f' template' → (step, f, template) ≠ (step', f', template') →
        ∀ d d', topics.response d ≠ topics'.response d') ∧
      (∀ template f, TopicMatch.ofTopic? (Topics.createCertificate f).publish = none ∧
        TopicMatch.ofTopic? (Topics.registerThing template f).publish = none) ∧
      ∀ name, checkTemplateName name = .ok () → IsLevel name ∧ ∀ f, ∀ topic ∈
        (Topics.registerThing name f).publish :: (Topics.registerThing name f).responseFilters,
        ∀ c ∈ topic.toList, c ∉ wildcards := by
  have hbuilt {topics : Topics} {step : Step} {f : PayloadFormat} {template : Option String}
      (h : Names topics step f template) (d : Disposition) :
      TopicMatch.ofTopic? (topics.response d) = some ⟨step, f, d, template⟩ :=
    TopicMatch.ofTopic?_eq_some_iff.2 ⟨topics, h, rfl⟩
  refine ⟨fun topic m => TopicMatch.ofTopic?_eq_some_iff, fun h topic d => ?_,
    fun h h' hne d d' heq => ?_, TopicMatch.ofTopic?_publish,
    fun name => level_of_checkTemplateName⟩
  · rw [h.dispositionOf_eq_some_iff]
    constructor
    · rintro rfl
      exact hbuilt h d
    · intro hmatch
      obtain ⟨topics', h', htopic⟩ := TopicMatch.ofTopic?_eq_some_iff.1 hmatch
      rwa [h.unique h']
  · have hsame := (hbuilt h d).symm.trans (heq ▸ hbuilt h' d')
    simp only [Option.some.injEq, TopicMatch.mk.injEq] at hsame
    obtain ⟨rfl, rfl, -, rfl⟩ := hsame
    exact hne rfl

/-- A template that is named like the fixed level behind it is recognised. -/
theorem provision_recognised :
    IsLevel "provision" ∧ ∀ f d, TopicMatch.ofTopic?
      ((Topics.registerThing "provision" f).response d) =
        some ⟨.registerThing, f, d, some "provision"⟩ := by
  have hlevel : IsLevel "provision" := ⟨by decide, by decide⟩
  refine ⟨hlevel, fun f d => ?_⟩
  have hnames := Names.registerThing f hlevel
  exact (answers_recognised_exactly.2.1 hnames _ d).1 (hnames.dispositionOf_eq_some_iff.2 rfl)

end Enrolment

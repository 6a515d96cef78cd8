import MemoryLab.Model.AnswerGate

/-! # What a provider-backed answer cites -/

namespace MemoryLab.Answer

open Library
open GraphSnapshot (idText)
open TierRouter (digits)

/-! ## Texts that the pattern reads to their end -/

/-- Nonempty, of identifier characters only, and with a letter or a digit at the end. -/
def isIdWord (s : Text) : Bool := s.all isIdChar && s.getLast?.any Char.isAlphanum

theorem isIdWord_append {s t : Text} (hs : s.all isIdChar = true) (ht : isIdWord t = true) :
    isIdWord (s ++ t) = true := by
  rw [isIdWord, Bool.and_eq_true] at ht ⊢
  refine ⟨by simp only [List.all_append, hs, ht.1, Bool.and_self], ?_⟩
  have hne : t ≠ [] := by rintro rfl; simp at ht
  rw [List.getLast?_append_of_ne_nil _ hne]
  exact ht.2

theorem isIdWord_of_alphanum {s : Text} (hne : s ≠ []) (h : ∀ c ∈ s, c.isAlphanum = true) :
    isIdWord s = true := by
  rw [isIdWord, Bool.and_eq_true, List.all_eq_true]
  refine ⟨fun c hc => by simp [isIdChar, h c hc], ?_⟩
  rw [List.getLast?_eq_some_getLast hne]
  exact h _ (List.getLast_mem hne)

theorem isIdWord_digits (n : ℕ) : isIdWord (digits n) = true := by
  apply isIdWord_of_alphanum Nat.toDigits_ne_nil
  intro c hc
  have hdigit : c.isDigit = true := Nat.isDigit_of_mem_toDigits (by decide) (by decide) hc
  simp [Char.isAlphanum, hdigit]

theorem isAlphanum_hexChar {d : ℕ} (h : d < 16) : (Uuid.hexChar d).isAlphanum = true := by
  interval_cases d <;> decide

theorem isIdWord_hexDigits (k n : ℕ) : isIdWord (Uuid.hexDigits (k + 1) n) = true := by
  apply isIdWord_of_alphanum
  · simp [Uuid.hexDigits]
  · intro c hc
    obtain ⟨d, hd, rfl⟩ := Uuid.mem_hexDigits hc
    exact isAlphanum_hexChar hd

theorem all_isIdChar {s : Text} (h : isIdWord s = true) : s.all isIdChar = true := by
  rw [isIdWord, Bool.and_eq_true] at h
  exact h.1

theorem isIdWord_append_cons {s t : Text} {c : Char} (hs : isIdWord s = true)
    (hc : isIdChar c = true) (ht : isIdWord t = true) : isIdWord (s ++ c :: t) = true := by
  apply isIdWord_append (all_isIdChar hs)
  exact isIdWord_append (s := [c]) (by simp [hc]) ht

theorem isIdWord_text (u : Uuid) : isIdWord u.text = true := by
  have hgroup := isIdWord_hexDigits
  have hhyphen : isIdChar '-' = true := by decide
  apply isIdWord_append_cons (hgroup 7 _) hhyphen
  apply isIdWord_append_cons (hgroup 3 _) hhyphen
  apply isIdWord_append_cons (hgroup 3 _) hhyphen
  exact isIdWord_append_cons (hgroup 3 _) hhyphen (hgroup 11 _)

theorem isIdWord_idText (id : ℕ) : isIdWord (idText id) = true := isIdWord_text _

theorem isIdWord_tail (tail : EvidenceTail) : isIdWord tail.text = true := by
  cases tail with
  | chunk chunkId => exact isIdWord_idText chunkId
  | path retrievalPath rank =>
      have hpath : isIdWord retrievalPath.label.toList = true := by
        cases retrievalPath <;> decide
      exact isIdWord_append_cons hpath (by decide) (isIdWord_digits rank)
  | role evidenceRole => cases evidenceRole <;> decide
  | content => decide

/-- What follows `ev_` in the identifier of evidence. -/
theorem isIdWord_rest (contentId : ContentId) (tail : EvidenceTail) :
    isIdWord (idText contentId ++ '_' :: tail.text) = true :=
  isIdWord_append_cons (isIdWord_idText contentId) (by decide) (isIdWord_tail tail)

/-! ## Citations -/

namespace WordClass

/-- A character that makes the identifier next to it a part of a longer one. -/
def joins (words : WordClass) (c : Char) : Bool := words.isWord c || c == '-'

theorem isWord_of_isAlphanum (words : WordClass) {c : Char} (h : c.isAlphanum = true) :
    words.isWord c = true := by
  have hascii : c.toNat < 128 := by
    simp only [Char.isAlphanum, Char.isDigit, Text.isAlpha_iff, Text.isUpper_iff,
      Text.isLower_iff, Bool.or_eq_true, Bool.and_eq_true, decide_eq_true_eq,
      UInt32.le_iff_toNat_le] at h
    have hval : c.toNat = c.val.toNat := rfl
    simp at h
    omega
  rw [words.ascii c hascii, h, Bool.true_or]

theorem isWord_getLast? (words : WordClass) {s : Text} (h : isIdWord s = true) :
    s.getLast?.any words.isWord = true := by
  rw [isIdWord, Bool.and_eq_true, Option.any_eq_true_iff_get] at h
  rw [Option.any_eq_true_iff_get]
  obtain ⟨_, hsome, hlast⟩ := h
  exact ⟨hsome, words.isWord_of_isAlphanum hlast⟩

theorem joins_of_isIdChar (words : WordClass) {c : Char} (h : isIdChar c = true) :
    words.joins c = true := by
  simp only [isIdChar, Bool.or_eq_true, beq_iff_eq] at h
  rcases h with (h | rfl) | rfl
  · simp [joins, words.isWord_of_isAlphanum h]
  · simp [joins, words.ascii '_' (by decide)]
  · simp [joins]

end WordClass

section Citations

variable (words : WordClass)

/-- The text names the identifier as a whole, not as a part of a longer one. -/
def Cites (text id : Text) : Prop := Text.occursBounded words.joins id false text = true

instance (text id : Text) : Decidable (Cites words text id) :=
  inferInstanceAs (Decidable (_ = true))

theorem evidenceIdPattern_reads : evidenceIdPattern.Reads words.joins := by
  have hchar (c : Char) (hc : isIdChar c = true) : (Pattern.char c).Reads words.joins := by
    apply Pattern.reads_one
    intro d hd
    obtain rfl : d = c := by simpa using hd
    exact words.joins_of_isIdChar hc
  apply (hchar 'e' (by decide)).seq
  apply (hchar 'v' (by decide)).seq
  apply (hchar '_' (by decide)).seq
  exact Pattern.reads_plus fun c => words.joins_of_isIdChar

theorem remainders_evidenceId {w rest : Text} (hw : isIdWord w = true)
    (hrest : rest.head?.any isIdChar = false) :
    ∃ more, evidenceIdPattern.remainders ("ev_".toList ++ w ++ rest) = rest :: more := by
  cases w with
  | nil => simp [isIdWord] at hw
  | cons c w =>
      have hall := all_isIdChar hw
      rw [List.all_cons, Bool.and_eq_true] at hall
      obtain ⟨more, hmore⟩ := Pattern.manyRemainders_append hall.2 hrest
      refine ⟨more, ?_⟩
      simp [evidenceIdPattern, Pattern.remainders, Pattern.char, Pattern.plus, hall.1, hmore]

/-- The pattern's first choice at an identifier is to read all of it. -/
theorem boundedRemainder_evidenceId {w rest : Text} {before : Option Char}
    (hw : isIdWord w = true) (hbefore : before.any words.joins = false)
    (hrest : rest.head?.any words.joins = false) :
    evidenceIdPattern.boundedRemainder words.isWord before ("ev_".toList ++ w ++ rest) =
      some rest := by
  have hword {c : Option Char} (h : c.any words.joins = false) : c.any words.isWord = false := by
    cases c with
    | none => rfl
    | some c => simp_all [WordClass.joins]
  have hidChar : rest.head?.any isIdChar = false := by
    cases hhead : rest.head? with
    | none => rfl
    | some c =>
        rw [hhead, Option.any_some] at hrest
        rw [Option.any_some, Bool.eq_false_iff]
        intro hc
        simp [words.joins_of_isIdChar hc] at hrest
  obtain ⟨more, hmore⟩ := remainders_evidenceId hw hidChar
  have hlast : ("ev_".toList ++ w).getLast?.any words.isWord = true :=
    words.isWord_getLast? (isIdWord_append (by decide) hw)
  have hfirst : words.isWord 'e' = true := words.isWord_of_isAlphanum (by decide)
  rw [Pattern.boundedRemainder, if_pos, hmore, List.find?_cons_of_pos]
  · simp only [List.length_append, Nat.add_sub_cancel, Pattern.isBoundary, hword hrest]
    rw [← List.length_append, List.take_left, hlast]
    rfl
  · simp [Pattern.isBoundary, hword hbefore, hfirst]

/-- The pattern finds every identifier of evidence that a text cites. -/
theorem mem_citedEvidenceIds {text : Text} {contentId : ContentId} {tail : EvidenceTail}
    (h : Cites words text (MintedId.evidence contentId tail).text) :
    (MintedId.evidence contentId tail).text ∈ citedEvidenceIds words text := by
  refine Pattern.mem_findallBounded (evidenceIdPattern_reads words) ?_ (.inl rfl) (by simp) h ?_
  · intro before rest hbefore hrest
    rw [MintedId.text, List.append_assoc "ev_".toList]
    exact boundedRemainder_evidenceId words (isIdWord_rest contentId tail) hbefore hrest
  · simp [MintedId.text]

/-! ## The gate -/

/-- Every check of the gate passes. -/
structure Accepts (request : GateRequest) : Prop where
  optedIn : request.enableProviderSynthesis = true
  enabled : request.providerSynthesisEnabled = true
  answered : request.response.degraded = false
  text : providerTextAllowed request.response.text.strip = true
  citations : providerCitationsAllowed words request.response.text.strip
    request.allowedEvidenceIds = true

theorem gateProviderAnswer_of_accepts {request : GateRequest} (h : Accepts words request) :
    (gateProviderAnswer words request).mode = .providerBacked ∧
      (gateProviderAnswer words request).text = request.response.text.strip := by
  simp [gateProviderAnswer, h.optedIn, h.enabled, h.answered, h.text, h.citations]

theorem accepts_of_providerBacked {request : GateRequest}
    (h : (gateProviderAnswer words request).mode = .providerBacked) : Accepts words request := by
  rw [gateProviderAnswer] at h
  split at h
  · cases h
  · rename_i hoptedIn
    split at h
    · cases h
    · rename_i henabled
      split at h
      · cases h
      · rename_i hanswered
        dsimp only at h
        split at h
        · cases h
        · rename_i hchecks
          simp only [Bool.or_eq_true, Bool.not_eq_true', not_or, Bool.not_eq_false] at hchecks
          exact ⟨by simpa using hoptedIn, by simpa using henabled, by simpa using hanswered,
            hchecks.1, hchecks.2⟩

/-- An accepted text names no identifier of evidence that was not supplied. -/
theorem Accepts.mem_allowed {request : GateRequest} (h : Accepts words request)
    {contentId : ContentId} {tail : EvidenceTail}
    (hcites : Cites words request.response.text.strip (MintedId.evidence contentId tail).text) :
    (MintedId.evidence contentId tail).text ∈ request.allowedEvidenceIds := by
  have hcited := mem_citedEvidenceIds words hcites
  have hall := List.all_eq_true.mp h.citations _ hcited
  simpa using hall

theorem exists_ref_of_mem_citationIds {pack : ContextPack} {id : Text}
    (h : id ∈ citationIds (collectEvidenceRefs pack)) :
    ∃ ref ∈ pack.supportingEvidence ++ pack.currentStateSignals ++ pack.counterfindings ++
      pack.staleOrSupersededItems, ref.id = id := by
  obtain ⟨ref, href, rfl⟩ := List.mem_map.mp (List.mem_filter.mp h).1
  have hkept := Rows.mem_of_mem_distinctOn ((List.mem_insertionSort _).mp href)
  exact ⟨ref, (List.mem_filter.mp hkept).1, rfl⟩

/-- What a provider-backed response names of retrieved evidence is in the pack. -/
theorem answerContextPack_cites {pack : ContextPack} {options : ProviderOptions}
    (hmode : (answerContextPack words pack options).mode = .providerBacked)
    {contentId : ContentId} {tail : EvidenceTail}
    (hcites : Cites words (answerContextPack words pack options).answerCandidate
      (MintedId.evidence contentId tail).text) :
    ∃ ref ∈ pack.supportingEvidence ++ pack.currentStateSignals ++ pack.counterfindings ++
      pack.staleOrSupersededItems, ref.id = (MintedId.evidence contentId tail).text := by
  apply exists_ref_of_mem_citationIds
  rcases hbuilt : buildAnswerCandidate (collectEvidenceRefs pack) (buildConflictWarnings pack)
    with ⟨candidate, reason⟩
  cases reason with
  | some reason => simp [answerContextPack, hbuilt] at hmode
  | none =>
      simp only [answerContextPack, hbuilt] at hmode hcites
      have haccepts := accepts_of_providerBacked words hmode
      rw [(gateProviderAnswer_of_accepts words haccepts).2] at hcites
      exact haccepts.mem_allowed words hcites

/-- A provider-backed answer names supplied identifiers only. -/
def CitesOnlyAllowed (request : GateRequest) : Prop :=
  (gateProviderAnswer words request).mode = .providerBacked → ∀ id : MintedId,
    Cites words (gateProviderAnswer words request).text id.text →
      id.text ∈ request.allowedEvidenceIds

/-- The identifiers of current-state rows in a text that passes every check were supplied. -/
def CurrentStateIdsAllowed (request : GateRequest) : Prop :=
  Accepts words request → ∀ id : ContextPack.EvidenceId,
    Cites words request.response.text.strip (currentStateText id) →
      currentStateText id ∈ request.allowedEvidenceIds

theorem citesOnlyAllowed_iff_currentState (request : GateRequest) :
    CitesOnlyAllowed words request ↔ CurrentStateIdsAllowed words request := by
  constructor
  · intro h haccepts id hcites
    obtain ⟨hmode, htext⟩ := gateProviderAnswer_of_accepts words haccepts
    exact h hmode (.currentState id) (by rwa [htext])
  · intro h hmode id hcites
    have haccepts := accepts_of_providerBacked words hmode
    rw [(gateProviderAnswer_of_accepts words haccepts).2] at hcites
    cases id with
    | evidence contentId tail => exact haccepts.mem_allowed words hcites
    | currentState evidenceId => exact h haccepts evidenceId hcites

end Citations

/-! ## An identifier that no one supplied -/

def asciiWords : WordClass where
  isWord c := c.isAlphanum || c == '_'
  ascii _ _ := rfl

def wordingOf (text : Text) : LLMBackend where
  providerName := "wording"
  isConfigured := true
  summarize _ := { text }

end MemoryLab.Answer

import MemoryLab.Model.McpClient

/-! # The passes of the redaction

Three passes replace a run after a fixed start, and may run over quotes. A text that is closed
for them is rewritten apart from a quote after it. -/

namespace MemoryLab.McpClient

open Library Library.Pattern
open ReadOnlySql (equalsIgnoringCase)

/-! ## What the patterns read -/

theorem isSpace_eq_false_of_equalsIgnoringCase {letter c : Char}
    (h : equalsIgnoringCase letter c = true) (hletter : Text.isSpace letter = false) :
    Text.isSpace c = false := by
  by_contra hspace
  have hspace : Text.isSpace c = true := by simpa using hspace
  have hrange : ¬ c.isLower = true := by
    rw [Text.isSpace] at hspace
    rw [Text.isLower_iff]
    simp at hspace
    omega
  have hupper : c.toUpper = c := Text.toUpper_of_not_isLower hrange
  have hne : (c == letter) = false := by
    rw [beq_eq_false_iff_ne]
    rintro rfl
    simp [hspace] at hletter
  rw [equalsIgnoringCase, hupper] at h
  rw [Text.isSpace] at hspace
  simp [hne] at h hspace
  omega

theorem within_anyCase {w : String}
    (h : (w.toList.map Char.toUpper).all (fun letter => !Text.isSpace letter) = true) :
    (anyCase w).Within fun c => !Text.isSpace c := by
  apply within_word
  intro letter hletter c hc
  have hspace := List.all_eq_true.mp h letter hletter
  simp only [Bool.not_eq_true'] at hspace ⊢
  exact isSpace_eq_false_of_equalsIgnoringCase hc hspace

theorem language_literal {w : String} {s : Text} : (literal w).Language s ↔ s = w.toList := by
  rw [literal, language_word]
  simp only [beq_iff_eq]
  rw [List.forall₂_eq_eq_eq]
  exact eq_comm

theorem secretNames_within : secretNames.Within fun c => !Text.isSpace c := by
  refine ⟨within_anyCase (by decide), ⟨within_anyCase (by decide), ⟨?_, by simp [empty, Within]⟩,
    within_anyCase (by decide)⟩, within_anyCase (by decide), within_anyCase (by decide),
    within_anyCase (by decide)⟩
  intro c hc
  rcases (Bool.or_eq_true ..).mp hc with h | h
  · rw [eq_of_beq h]
    rfl
  · rw [eq_of_beq h]
    rfl

theorem not_isSpace_of_keyAssignment_start {start : Text}
    (h : keyAssignment.start.Language start) : ∀ c ∈ start, Text.isSpace c = false := by
  have hlead : (char '=').Within fun c => !Text.isSpace c := by
    intro c hc
    rw [eq_of_beq hc]
    rfl
  have hwithin : keyAssignment.start.Within fun c => !Text.isSpace c :=
    ⟨secretNames_within, hlead⟩
  intro c hc
  simpa using hwithin.of_language h c hc

theorem equals_mem_keyAssignment_start {start : Text} (h : keyAssignment.start.Language start) :
    '=' ∈ start := by
  obtain ⟨x, y, _, hy, rfl⟩ := h
  obtain rfl : y = ['='] := by simpa [keyAssignment] using hy
  simp

theorem bearerLead_of_authorizationLead {read : Text} (h : authorizationLead.Language read) :
    ∃ front start, bearerLead.Language start ∧ read = front ++ start := by
  obtain ⟨a, _, _, ⟨b, _, _, ⟨c, _, _, ⟨d, start, _, hstart, rfl⟩, rfl⟩, rfl⟩, rfl⟩ := h
  exact ⟨a ++ (b ++ (c ++ d)), start, hstart, by simp⟩

theorem bearerToken_start {start : Text} :
    bearerToken.start.Language start ↔ bearerLead.Language start := by
  constructor
  · rintro ⟨x, y, hx, hy, rfl⟩
    obtain rfl : x = [] := by simpa [bearerToken] using hx
    exact hy
  · intro h
    exact ⟨[], start, by simp [bearerToken], h, rfl⟩

theorem exists_cons_of_authorizationLead {read : Text} (h : authorizationLead.Language read) :
    ∃ more, read = 'A' :: more := by
  obtain ⟨x, y, hx, _, rfl⟩ := h
  exact ⟨"uthorization".toList ++ y, by rw [language_literal.mp hx]; rfl⟩

theorem authorizationHeader_start {start : Text} :
    authorizationHeader.start.Language start ↔ authorizationLead.Language start := by
  constructor
  · rintro ⟨x, y, hx, hy, rfl⟩
    obtain rfl : x = [] := by simpa [authorizationHeader] using hx
    exact hy
  · intro h
    exact ⟨[], start, by simp [authorizationHeader], h, rfl⟩

theorem bearerLead_needs {start : Text} (h : bearerLead.Language start) : 'B' ∈ start := by
  obtain ⟨x, y, hx, _, rfl⟩ := h
  rw [language_literal.mp hx]
  simp

theorem bearerToken_start_needs {start : Text} (h : bearerToken.start.Language start) :
    'B' ∈ start :=
  bearerLead_needs (bearerToken_start.mp h)

theorem authorizationHeader_start_needs {start : Text}
    (h : authorizationHeader.start.Language start) : 'B' ∈ start := by
  obtain ⟨front, start, hstart, rfl⟩ :=
    bearerLead_of_authorizationLead (authorizationHeader_start.mp h)
  exact List.mem_append_right front (bearerLead_needs hstart)

/-! ## Closed texts -/

theorem authorizationHeader_closed {a : Text} (h : bearerToken.Closed a) :
    authorizationHeader.Closed a := by
  rintro front start rest hstart rfl
  obtain ⟨before, start, hbearer, rfl⟩ :=
    bearerLead_of_authorizationLead (authorizationHeader_start.mp hstart)
  exact h (front ++ before) start rest (bearerToken_start.mpr hbearer) (by simp)

/-- What the first pass writes has a blank after a colon, and stops a run before its end. -/
theorem bearerToken_closed_sub {a : Text} (h : bearerToken.Closed a) :
    bearerToken.Closed (authorizationHeader.toSubstitution.sub a) := by
  have havoids : bearerToken.start.avoids ':' = true ∧ bearerToken.start.avoids ']' = true := by
    decide
  refine h.sub ?_ ?_
  · rintro start rest hstart hrun ⟨front, tail, hsplit⟩
    have hcolon : start ++ rest = (front ++ "Authorization".toList) ++
        ':' :: (" Bearer [REDACTED]".toList ++ tail) := by
      rw [← hsplit]
      simp [authorizationHeader, RunSubstitution.toSubstitution]
    have hblank : ' ' ∈ rest :=
      mem_of_append_eq hcolon (notMem_of_avoids havoids.1 hstart) ' ' (by simp)
    have hstop := hrun ' ' hblank
    revert hstop
    decide
  · rintro x y s inner start rest hx ⟨lead, last, hlead, hlast, rfl⟩ hmatch hne hinner hstart hrun
      hsplit hclosed
    obtain rfl : x = [] := by
      simpa [authorizationHeader, RunSubstitution.toSubstitution] using hx
    obtain ⟨before, start', hbearer, rfl⟩ := bearerLead_of_authorizationLead hlead
    have hlast := language_plus.mp hlast
    cases s with
    | nil =>
        obtain ⟨c, hc, hstop⟩ :=
          hclosed before start' last (bearerToken_start.mpr hbearer) (by simp)
        have hread : isTokenChar c = true := hlast.2 c hc
        rw [show bearerToken.run c = isTokenChar c from rfl, hread] at hstop
        cases hstop
    | cons d s =>
        have hstop : isTokenChar d = false :=
          RunSubstitution.stops_of_firstMatch hmatch d rfl
        have hkeep : authorizationHeader.toSubstitution.firstMatch (d :: s) = none := by
          rw [Substitution.firstMatch_eq_none_iff]
          rintro front _ tail hfront ⟨y, z, hy, _, rfl⟩ hs
          obtain rfl : front = [] := by
            simpa [authorizationHeader, RunSubstitution.toSubstitution] using hfront
          obtain ⟨more, rfl⟩ := exists_cons_of_authorizationLead hy
          obtain rfl : d = 'A' := by simpa using congrArg List.head? hs
          revert hstop
          decide
        rw [Substitution.sub_cons_of_none hkeep] at hsplit
        obtain ⟨inner, rfl⟩ := exists_append_of_suffix hinner hne (c := ']') (by decide)
        have hbracket : start ++ rest =
            inner ++ ']' :: (d :: authorizationHeader.toSubstitution.sub s) := by
          simpa using hsplit.symm
        have hd : d ∈ rest :=
          mem_of_append_eq hbracket (notMem_of_avoids havoids.2 hstart) d (by simp)
        have hread : isTokenChar d = true := hrun d hd
        rw [hstop] at hread
        cases hread

/-- A pass whose text has a blank and no equals sign leaves the keys of assignments closed. -/
theorem keyAssignment_closed_sub {first : RunSubstitution} (hgroup : first.group = empty)
    (hblank : ' ' ∈ first.replacement) (hequals : '=' ∉ first.replacement)
    (hlast : first.replacement.getLast? = some ']') {a : Text} (h : keyAssignment.Closed a) :
    keyAssignment.Closed (first.toSubstitution.sub a) := by
  have havoids : keyAssignment.start.avoids ']' = true := by decide
  refine h.sub ?_ ?_
  · rintro start rest hstart hrun ⟨front, tail, hsplit⟩
    have hmem : ' ' ∈ start ++ rest := by
      rw [← hsplit]
      exact List.mem_append_left tail (List.mem_append_right front hblank)
    rcases List.mem_append.mp hmem with hmem | hmem
    · have hspace := not_isSpace_of_keyAssignment_start hstart ' ' hmem
      revert hspace
      decide
    · have hread := hrun ' ' hmem
      revert hread
      decide
  · intro x y s inner start rest hx _ _ hne hinner hstart _ hsplit _
    obtain rfl : x = [] := by simpa [RunSubstitution.toSubstitution, hgroup] using hx
    rw [List.nil_append] at hinner
    obtain ⟨inner, rfl⟩ := exists_append_of_suffix hinner hne hlast
    rcases List.append_eq_append_iff.mp hsplit with ⟨middle, hmiddle, _⟩ | ⟨middle, hmiddle, _⟩
    · exact notMem_of_avoids havoids hstart (by simp [hmiddle])
    · exact hequals (hinner.mem (hmiddle ▸ List.mem_append_left middle
        (equals_mem_keyAssignment_start hstart)))

/-! ## The passes over parts of a text -/

/-- What the first three passes make of a text. -/
def redactRuns (s : Text) : Text :=
  keyAssignment.toSubstitution.sub
    (bearerToken.toSubstitution.sub (authorizationHeader.toSubstitution.sub s))

theorem redact_eq (s : Text) : redact s = jsonSecret.sub (redactRuns s) := rfl

/-- No run of the first three passes goes on to the end of the text. -/
structure RunsClosed (a : Text) : Prop where
  bearerToken : bearerToken.Closed a
  keyAssignment : keyAssignment.Closed a

theorem redactRuns_append {a : Text} (h : RunsClosed a) (b : Text) :
    redactRuns (a ++ '"' :: b) = redactRuns a ++ '"' :: redactRuns b := by
  have hkey : McpClient.keyAssignment.Closed (authorizationHeader.toSubstitution.sub a) :=
    keyAssignment_closed_sub rfl (by decide) (by decide) (by decide) h.keyAssignment
  have hlater : McpClient.keyAssignment.Closed
      (McpClient.bearerToken.toSubstitution.sub (authorizationHeader.toSubstitution.sub a)) :=
    keyAssignment_closed_sub rfl (by decide) (by decide) (by decide) hkey
  rw [redactRuns, RunSubstitution.sub_append_of_closed
      (within_of_avoids (d := '"') (by decide)) (by decide)
      (authorizationHeader_closed h.bearerToken),
    RunSubstitution.sub_append_of_closed (within_of_avoids (d := '"') (by decide)) (by decide)
      (bearerToken_closed_sub h.bearerToken),
    RunSubstitution.sub_append_of_closed (within_of_avoids (d := '"') (by decide)) (by decide)
      hlater]
  rfl

theorem redactRuns_eq_self {s : Text} (hB : 'B' ∉ s) (hequals : '=' ∉ s) : redactRuns s = s := by
  rw [redactRuns,
    (RunSubstitution.needs fun _ => authorizationHeader_start_needs).sub_eq_self hB,
    (RunSubstitution.needs fun _ => bearerToken_start_needs).sub_eq_self hB,
    (RunSubstitution.needs fun _ => equals_mem_keyAssignment_start).sub_eq_self hequals]

theorem runsClosed_of_notMem {s : Text} (hB : 'B' ∉ s) (hequals : '=' ∉ s) : RunsClosed s where
  bearerToken := RunSubstitution.closed_of_notMem (fun _ => bearerToken_start_needs) hB
  keyAssignment :=
    RunSubstitution.closed_of_notMem (fun _ => equals_mem_keyAssignment_start) hequals

theorem redactRuns_ne_nil {s : Text} (hs : s ≠ []) : redactRuns s ≠ [] := by
  apply Substitution.sub_ne_nil (by decide)
  apply Substitution.sub_ne_nil (by decide)
  exact Substitution.sub_ne_nil (by decide) hs

theorem quote_notMem_redactRuns {s : Text} (hs : '"' ∉ s) : '"' ∉ redactRuns s := by
  apply Substitution.notMem_sub (by decide)
  apply Substitution.notMem_sub (by decide)
  exact Substitution.notMem_sub (by decide) hs

/-- No match ends with a blank. -/
theorem getLast?_redact {c : Char} (hc : Text.isSpace c = true) {s : Text}
    (hs : s.getLast? = some c) : (redact s).getLast? = some c := by
  have hrun : isTokenChar c = false ∧ isValueChar c = false := by
    simp [isTokenChar, isValueChar, hc]
  apply Substitution.getLast?_sub
  · rintro _ ⟨x, _, _, ⟨y, z, _, hz, rfl⟩, rfl⟩ hlast
    obtain rfl : z = ['"'] := by simpa using hz
    obtain rfl : '"' = c := by simpa using hlast
    revert hc
    decide
  · apply RunSubstitution.getLast?_sub hrun.2
    apply RunSubstitution.getLast?_sub hrun.1
    exact RunSubstitution.getLast?_sub hrun.1 hs

end MemoryLab.McpClient

import MemoryLab.Library.JsonTemplate
import MemoryLab.Verification.Mcp.Redaction

/-! # What the errors of the client tell of secrets -/

namespace MemoryLab.McpClient

open Library Library.Pattern
open ReadOnlySql (equalsIgnoringCase)

/-! ## Matches of the last pass -/

/-- A text that starts with a match of the last pass. -/
def ReadsSecret (s : Text) : Prop :=
  ∃ key value tail, secretKey.Language key ∧ value ≠ [] ∧ '"' ∉ value ∧
    s = key ++ '"' :: (value ++ '"' :: tail)

theorem language_quotedRun {s : Text} :
    quotedRun.Language s ↔ ∃ value, value ≠ [] ∧ '"' ∉ value ∧ s = '"' :: (value ++ ['"']) := by
  constructor
  · rintro ⟨x, _, hx, ⟨value, z, hvalue, hz, rfl⟩, rfl⟩
    obtain ⟨rfl, rfl⟩ : x = ['"'] ∧ z = ['"'] := by simpa using And.intro hx hz
    obtain ⟨hne, hvalue⟩ := language_plus.mp hvalue
    exact ⟨value, hne, fun hmem => by simpa using hvalue '"' hmem, rfl⟩
  · rintro ⟨value, hne, hvalue, rfl⟩
    refine ⟨['"'], value ++ ['"'], by simp, ⟨value, ['"'], ?_, by simp, rfl⟩, rfl⟩
    refine language_plus.mpr ⟨hne, fun c hc => ?_⟩
    simp only [bne_iff_ne]
    rintro rfl
    exact hvalue hc

theorem firstMatch_jsonSecret_eq_none {s : Text} :
    jsonSecret.firstMatch s = none ↔ ¬ ReadsSecret s := by
  rw [Substitution.firstMatch_eq_none_iff]
  constructor
  · rintro h ⟨key, value, tail, hkey, hne, hvalue, rfl⟩
    exact h key ('"' :: (value ++ ['"'])) tail hkey
      (language_quotedRun.mpr ⟨value, hne, hvalue, rfl⟩) (by simp)
  · rintro h key _ tail hkey hrest rfl
    obtain ⟨value, hne, hvalue, rfl⟩ := language_quotedRun.mp hrest
    exact h ⟨key, value, tail, hkey, hne, hvalue, by simp⟩

theorem language_secretKey {s : Text} : secretKey.Language s ↔ ∃ name mid,
    secretFields.Language name ∧ colon.Language mid ∧ s = '"' :: (name ++ '"' :: mid) := by
  constructor
  · rintro ⟨x, _, hx, ⟨name, _, hname, ⟨y, mid, hy, hmid, rfl⟩, rfl⟩, rfl⟩
    obtain ⟨rfl, rfl⟩ : x = ['"'] ∧ y = ['"'] := by simpa using And.intro hx hy
    exact ⟨name, mid, hname, hmid, rfl⟩
  · rintro ⟨name, mid, hname, hmid, rfl⟩
    exact ⟨['"'], name ++ '"' :: mid, by simp,
      ⟨name, '"' :: mid, hname, ⟨['"'], mid, by simp, hmid, rfl⟩, rfl⟩, rfl⟩

theorem firstMatch_jsonSecret {key value : Text} (hkey : secretKey.Language key)
    (hne : value ≠ []) (hvalue : '"' ∉ value) (tail : Text) :
    jsonSecret.firstMatch (key ++ ('"' :: (value ++ ['"']) ++ tail)) =
      some ('"' :: (value ++ ['"']) ++ tail, tail) := by
  have hreads : ReadsSecret (key ++ ('"' :: (value ++ ['"']) ++ tail)) :=
    ⟨key, value, tail, hkey, hne, hvalue, by simp⟩
  have hsome : jsonSecret.firstMatch (key ++ ('"' :: (value ++ ['"']) ++ tail)) ≠ none :=
    fun hnone => firstMatch_jsonSecret_eq_none.mp hnone hreads
  obtain ⟨⟨middle, rest⟩, hfound⟩ := Option.ne_none_iff_exists'.mp hsome
  obtain ⟨x, y, hx, hy, hsplit, rfl⟩ := Substitution.of_firstMatch hfound
  obtain ⟨other, _, hother, rfl⟩ := language_quotedRun.mp hy
  obtain ⟨name, mid, hname, hmid, rfl⟩ := language_secretKey.mp hkey
  obtain ⟨name', mid', hname', hmid', rfl⟩ := language_secretKey.mp hx
  have hquote : secretFields.avoids '"' = true ∧ colon.avoids '"' = true := by decide
  have hfields : name ++ '"' :: (mid ++ '"' :: (value ++ '"' :: tail)) =
      name' ++ '"' :: (mid' ++ '"' :: (other ++ '"' :: rest)) := by
    simpa using hsplit
  obtain ⟨rfl, hmids⟩ := append_cons_inj (notMem_of_avoids hquote.1 hname)
    (notMem_of_avoids hquote.1 hname') hfields
  obtain ⟨rfl, hvalues⟩ := append_cons_inj (notMem_of_avoids hquote.2 hmid)
    (notMem_of_avoids hquote.2 hmid') hmids
  obtain ⟨rfl, rfl⟩ := append_cons_inj hvalue hother hvalues
  exact hfound

/-! ## The earlier passes make no new match -/

theorem readsSecret_of_mem {key s : Text} (hkey : secretKey.Language key)
    (hhead : s.head? ≠ some '"') (hquote : '"' ∈ s) : ReadsSecret (key ++ '"' :: s) := by
  obtain ⟨value, tail, rfl, hvalue⟩ := List.eq_append_cons_of_mem hquote
  refine ⟨key, value, tail, hkey, ?_, hvalue, rfl⟩
  rintro rfl
  simp at hhead

/-- A substitution that starts with another character than a quote, and writes a bracket and no
quote. -/
structure Unquoted (r : Substitution) : Prop where
  starts : ∀ x y, r.group.Language x → r.rest.Language y → (x ++ y).head? ≠ some '"'
  writes : ∀ x, r.group.Language x → '"' ∉ x ++ r.replacement
  bracket : '[' ∈ r.replacement

theorem unquoted_of_avoids {r : RunSubstitution} (h : r.start.avoids '"' = true)
    (hwrites : '"' ∉ r.replacement) (hbracket : '[' ∈ r.replacement) :
    Unquoted r.toSubstitution where
  starts := by
    rintro x _ hx ⟨y, z, hy, _, rfl⟩ hhead
    have hstart : r.start.Language (x ++ y) := ⟨x, y, hx, hy, rfl⟩
    rw [← List.append_assoc] at hhead
    cases hxy : x ++ y with
    | nil => exact r.starts (hxy ▸ hstart)
    | cons c read =>
        obtain rfl : c = '"' := by simpa [hxy] using hhead
        exact notMem_of_avoids h hstart (by simp [hxy])
  writes := by
    intro x hx hmem
    have hgroup : r.group.avoids '"' = true := by
      rw [RunSubstitution.start, avoids, Bool.and_eq_true] at h
      exact h.1
    rcases List.mem_append.mp hmem with hmem | hmem
    · exact notMem_of_avoids hgroup hx hmem
    · exact hwrites hmem
  bracket := hbracket

/-- A match that starts with a kept character was there before. -/
theorem readsSecret_of_rewrites {r : Substitution} (hr : Unquoted r) {s t : Text}
    (h : r.Rewrites s t) {c : Char} {z : Text} (hz : '"' ∈ z)
    (hreads : ReadsSecret (c :: (t ++ z))) : ReadsSecret (c :: (s ++ z)) := by
  rcases h.eq_or_split with rfl | ⟨front, x, y, later, tail, hx, hy, rfl, rfl⟩
  · exact hreads
  · obtain ⟨key, value, rest, hkey, hne, hvalue, hsplit⟩ := hreads
    have hbracket : '[' ∉ key := notMem_of_avoids (by decide) hkey
    have hwritten : '[' ∈ x ++ r.replacement := List.mem_append_right x hr.bracket
    have hsplit : (c :: front) ++ ((x ++ r.replacement) ++ (tail ++ z)) =
        key ++ '"' :: (value ++ '"' :: rest) := by simpa using hsplit
    rcases List.append_eq_append_iff.mp hsplit with
      ⟨middle, rfl, hmiddle⟩ | ⟨middle, hfront, hmiddle⟩
    · -- The key would hold the written text, or the written text a quote.
      rcases List.append_eq_append_iff.mp hmiddle with ⟨more, rfl, _⟩ | ⟨more, hmore, hquote⟩
      · exact absurd (List.mem_append_right _ (List.mem_append_left more hwritten)) hbracket
      · cases more with
        | nil =>
            rw [List.append_nil] at hmore
            exact absurd (List.mem_append_right _ (hmore ▸ hwritten)) hbracket
        | cons d more =>
            obtain ⟨rfl, _⟩ : '"' = d ∧ _ := by simpa using hquote
            exact absurd (hmore ▸ by simp) (hr.writes x hx)
    · -- The key was kept, and the quote before its value too.
      cases middle with
      | nil =>
          cases hxr : x ++ r.replacement with
          | nil => simp [hxr] at hwritten
          | cons d more =>
              obtain ⟨rfl, _⟩ : '"' = d ∧ _ := by simpa [hxr] using hmiddle
              exact absurd (by simp [hxr]) (hr.writes x hx)
      | cons d middle =>
          obtain ⟨rfl, hkept⟩ : '"' = d ∧ value ++ '"' :: rest =
              middle ++ ((x ++ r.replacement) ++ (tail ++ z)) := by simpa using hmiddle
          have hsame : c :: (front ++ (x ++ (y ++ later)) ++ z) =
              key ++ '"' :: (middle ++ ((x ++ y) ++ (later ++ z))) := by
            have := congrArg (· ++ ((x ++ y) ++ (later ++ z))) hfront
            simpa using this
          rw [hsame]
          apply readsSecret_of_mem hkey _ (by simp [hz])
          cases middle with
          | nil =>
              intro hhead
              apply hr.starts x y hx hy
              cases hxy : x ++ y with
              | nil =>
                  obtain ⟨_, rfl⟩ := List.append_eq_nil_iff.mp hxy
                  exact absurd hy r.reads
              | cons e more => simpa [hxy] using hhead
          | cons e middle =>
              obtain ⟨d, value, rfl⟩ := List.exists_cons_of_ne_nil hne
              obtain ⟨rfl, _⟩ : d = e ∧ _ := by simpa using hkept
              intro hhead
              obtain rfl : d = '"' := by simpa using hhead
              simp at hvalue

theorem not_readsSecret_sub {r : Substitution} (hr : Unquoted r) {gap z : Text} (hz : '"' ∈ z)
    (h : ∀ y, y ≠ [] → y <:+ gap → ¬ ReadsSecret (y ++ z)) :
    ∀ y, y ≠ [] → y <:+ r.sub gap → ¬ ReadsSecret (y ++ z) := by
  intro y hne hy hreads
  have hrewrites := r.rewrites_sub gap
  generalize r.sub gap = t at hrewrites hy
  induction hrewrites with
  | nil => exact hne (List.suffix_nil.mp hy)
  | keep _hnone hlater ih =>
      rename_i c s t
      rcases List.suffix_cons_iff.mp hy with rfl | hy
      · exact h (c :: s) (by simp) List.suffix_rfl (readsSecret_of_rewrites hr hlater hz hreads)
      · exact ih (fun y hne hy => h y hne (hy.trans (List.suffix_cons c s))) hy
  | replace hx hread _hmatch hlater ih =>
      rename_i x read s t
      have hrest := ih fun y hne hy => h y hne (hy.trans ⟨x ++ read, by simp⟩)
      obtain ⟨front, hsplit⟩ := hy
      rw [← List.append_assoc] at hsplit
      rcases List.append_eq_append_iff.mp hsplit with ⟨inner, hinner, rfl⟩ | ⟨more, _, rfl⟩
      · cases inner with
        | nil => exact hrest List.suffix_rfl
        | cons c inner =>
            obtain ⟨key, value, tail, hkey, _, _, hreads⟩ := hreads
            obtain ⟨name, mid, _, _, rfl⟩ := language_secretKey.mp hkey
            obtain ⟨rfl, _⟩ : c = '"' ∧ _ := by simpa using hreads
            exact hr.writes x hx (hinner ▸ by simp)
      · exact hrest (List.suffix_append more y)

theorem not_readsSecret_redactRuns {gap z : Text} (hz : '"' ∈ z)
    (h : ∀ y, y ≠ [] → y <:+ gap → ¬ ReadsSecret (y ++ z)) :
    ∀ y, y ≠ [] → y <:+ redactRuns gap → ¬ ReadsSecret (y ++ z) := by
  apply not_readsSecret_sub (unquoted_of_avoids (by decide) (by decide) (by decide)) hz
  apply not_readsSecret_sub (unquoted_of_avoids (by decide) (by decide) (by decide)) hz
  exact not_readsSecret_sub (unquoted_of_avoids (by decide) (by decide) (by decide)) hz h

/-! ## Texts that differ in secrets only -/

/-- What stands between the quotes of a secret, where every pass sees its end. -/
structure Hidden (value : Text) : Prop where
  ne_nil : value ≠ []
  quote : '"' ∉ value
  runs : RunsClosed value

/-- Two texts that agree but for complete secrets after their keys, with no match of another pass
over an end of a secret, and none of the last pass between two secrets. -/
inductive Covered : Text → Text → Prop
  | tail (s : Text) : Covered s s
  | secret {gap name mid value other s t : Text} : RunsClosed gap →
      (∀ y tail, y ≠ [] → y <:+ gap →
        jsonSecret.firstMatch (y ++ '"' :: (name ++ '"' :: tail)) = none) →
      secretFields.Language name → colon.Language mid → Hidden value → Hidden other →
      Covered s t →
      Covered (gap ++ '"' :: (name ++ '"' :: (mid ++ '"' :: (value ++ '"' :: s))))
        (gap ++ '"' :: (name ++ '"' :: (mid ++ '"' :: (other ++ '"' :: t))))

example : Covered "\x7b\"token\":\"abcd\"\x7d".toList "\x7b\"token\":\"efgh\"\x7d".toList := by
  have hfree : ∀ y tail, y ≠ [] → y <:+ ['\x7b'] →
      jsonSecret.firstMatch (y ++ '"' :: ("token".toList ++ '"' :: tail)) = none := by
    intro y tail hne hy
    rw [firstMatch_jsonSecret_eq_none]
    rintro ⟨_, value, rest, hkey, _, _, hsplit⟩
    obtain ⟨name, mid, _, _, rfl⟩ := language_secretKey.mp hkey
    obtain ⟨c, y, rfl⟩ := List.exists_cons_of_ne_nil hne
    obtain rfl : c = '"' := by simpa using congrArg List.head? hsplit
    simpa using hy.mem (List.mem_cons_self ..)
  have hvalue : Hidden "abcd".toList :=
    ⟨by decide, by decide, runsClosed_of_notMem (by decide) (by decide)⟩
  have hother : Hidden "efgh".toList :=
    ⟨by decide, by decide, runsClosed_of_notMem (by decide) (by decide)⟩
  exact .secret (runsClosed_of_notMem (by decide) (by decide)) hfree
    (.inl (.inl (language_word.mpr (by simp [equalsIgnoringCase]))))
    ⟨[], [':'], by simp [spaces, Pattern.Language],
      ⟨[':'], [], by simp, by simp [spaces, Pattern.Language], rfl⟩, rfl⟩ hvalue hother (.tail ['\x7d'])

theorem redact_secret {gap name mid value : Text} (hgap : RunsClosed gap)
    (hfree : ∀ y tail, y ≠ [] → y <:+ gap →
      jsonSecret.firstMatch (y ++ '"' :: (name ++ '"' :: tail)) = none)
    (hname : secretFields.Language name) (hmid : colon.Language mid) (hvalue : Hidden value)
    (s : Text) :
    redact (gap ++ '"' :: (name ++ '"' :: (mid ++ '"' :: (value ++ '"' :: s)))) =
      redactRuns gap ++ (('"' :: (name ++ '"' :: mid)) ++ (jsonSecret.replacement ++ redact s)) := by
  have hnames : secretFields.avoids 'B' = true ∧ secretFields.avoids '=' = true := by decide
  have hcolons : colon.avoids 'B' = true ∧ colon.avoids '=' = true := by decide
  have hruns : redactRuns (gap ++ '"' :: (name ++ '"' :: (mid ++ '"' :: (value ++ '"' :: s)))) =
      redactRuns gap ++
        '"' :: (name ++ '"' :: (mid ++ '"' :: (redactRuns value ++ '"' :: redactRuns s))) := by
    have hB := notMem_of_avoids hnames.1 hname
    have hequals := notMem_of_avoids hnames.2 hname
    have hB' := notMem_of_avoids hcolons.1 hmid
    have hequals' := notMem_of_avoids hcolons.2 hmid
    rw [redactRuns_append hgap, redactRuns_append (runsClosed_of_notMem hB hequals),
      redactRuns_eq_self hB hequals, redactRuns_append (runsClosed_of_notMem hB' hequals'),
      redactRuns_eq_self hB' hequals', redactRuns_append hvalue.runs]
  have hkey : secretKey.Language ('"' :: (name ++ '"' :: mid)) :=
    language_secretKey.mpr ⟨name, mid, hname, hmid, rfl⟩
  have hmatch := firstMatch_jsonSecret hkey (redactRuns_ne_nil hvalue.ne_nil)
    (quote_notMem_redactRuns hvalue.quote) (redactRuns s)
  have hquoted : jsonSecret.rest.Language ('"' :: (redactRuns value ++ ['"'])) :=
    language_quotedRun.mpr
      ⟨redactRuns value, redactRuns_ne_nil hvalue.ne_nil, quote_notMem_redactRuns hvalue.quote, rfl⟩
  have hsecret := Substitution.sub_of_firstMatch hquoted hmatch
  have hclear : ∀ y, y ≠ [] → y <:+ redactRuns gap → jsonSecret.firstMatch
      (y ++ '"' :: (name ++ '"' :: (mid ++ '"' :: (redactRuns value ++ '"' :: redactRuns s)))) =
        none := by
    intro y hne hy
    rw [firstMatch_jsonSecret_eq_none]
    refine not_readsSecret_redactRuns (by simp) (fun y hne hy => ?_) y hne hy
    exact firstMatch_jsonSecret_eq_none.mp (hfree y _ hne hy)
  rw [redact_eq, hruns, Substitution.sub_append_of_none hclear, redact_eq]
  simpa using hsecret

theorem Covered.redact_eq {s t : Text} (h : Covered s t) : redact s = redact t := by
  induction h with
  | tail => rfl
  | secret hgap hfree hname hmid hvalue hother _ ih =>
      rw [redact_secret hgap hfree hname hmid hvalue, redact_secret hgap hfree hname hmid hother,
        ih]

end MemoryLab.McpClient

import MemoryLab.Model.ConflictDetector
import MemoryLab.Model.ScopePipeline
import MemoryLab.Verification.Scope.Slug

/-! # Two readers of one scope marker

The resolver takes the first marker that its patterns find in the text, the detector the last
line that is one. Each brings what it reads into a normal form of its own. -/

namespace MemoryLab.Conflicts

open Library ScopePipeline

/-! ## Normal scopes -/

def isNormalChar (c : Char) : Bool := isLowerAlnum c || c == '-'

structure NormalScope (scope : Text) : Prop where
  ne_nil : scope ≠ []
  chars : ∀ c ∈ scope, isNormalChar c = true
  trimmed : Text.Trimmed (· == '-') scope

theorem isSlugChar_of_isNormalChar {c : Char} (h : isNormalChar c = true) :
    isSlugChar c = true := by
  rcases Bool.or_eq_true_iff.mp h with halnum | hdash
  · exact Bool.or_eq_true_iff.mpr (.inl halnum)
  · rw [beq_iff_eq.mp hdash]
    decide

theorem safePunct_normal (c : Char) :
    isNormalChar (safePunct c) = true ∨ Text.isSpace (safePunct c) = true := by
  unfold safePunct
  split
  · rename_i hkept
    rwa [Bool.or_eq_true] at hkept
  · exact .inr (by decide)

theorem safePunct_of_isNormalChar {c : Char} (h : isNormalChar c = true) : safePunct c = c := by
  rw [safePunct, if_pos]
  exact Bool.or_eq_true_iff.mpr (.inl h)

theorem normalScope_global : NormalScope "global".toList := by
  have hdashes : "global".toList.all (fun c => !(c == '-')) = true := by decide
  refine ⟨by decide, List.all_eq_true.mp (by decide), ?_⟩
  refine Text.trimmed_of_forall_not fun c hc => ?_
  simpa using List.all_eq_true.mp hdashes c hc

theorem normalizeScope_normal (value : Option Text) : NormalScope (normalizeScope value) := by
  unfold normalizeScope
  dsimp only
  split
  · exact normalScope_global
  · rename_i hne
    refine ⟨hne, fun c hc => ?_, Text.trimmed_stripChars _ _⟩
    rcases Text.mem_subRuns ((Text.stripChars_infix _ _).subset hc) with hdash | ⟨hmem, hspace⟩
    · rw [List.mem_singleton.mp hdash]
      decide
    · obtain ⟨d, -, rfl⟩ := List.mem_map.mp hmem
      exact (safePunct_normal d).resolve_right (by simp [hspace])

theorem getD_filter_ne_nil {value : Text} (h : value ≠ []) (other : Text) :
    ((some value).filter (· ≠ [])).getD other = value := by
  rw [Option.filter_some, if_pos (by simpa using h), Option.getD_some]

/-- A normal scope is its own normal form. -/
theorem NormalScope.normalize_eq {scope : Text} (h : NormalScope scope) :
    normalizeScope (some scope) = scope := by
  have hslug : ∀ c ∈ scope, isSlugChar c = true :=
    fun c hc => isSlugChar_of_isNormalChar (h.chars c hc)
  have hvalue := getD_filter_ne_nil h.ne_nil "global".toList
  have hstrip : scope.strip = scope :=
    (Text.trimmed_of_forall_not fun c hc => isSpace_of_isSlugChar (hslug c hc)).stripChars_eq
  have hunderscore : replaceChar '_' '-' scope = scope := by
    refine (List.map_congr_left fun c hc => if_neg ?_).trans (List.map_id scope)
    rintro rfl
    exact absurd (h.chars '_' hc) (by decide)
  have hsafe : scope.map safePunct = scope :=
    (List.map_congr_left fun c hc => safePunct_of_isNormalChar (h.chars c hc)).trans
      (List.map_id scope)
  have hspaces : Text.subRuns Text.isSpace ['-'] scope = scope :=
    Text.subRuns_of_forall_not _ fun c hc => isSpace_of_isSlugChar (hslug c hc)
  simp only [normalizeScope, hvalue, hstrip, lower_of_isSlugChar hslug, hunderscore, hsafe,
    hspaces, h.trimmed.stripChars_eq, h.ne_nil, if_false]

theorem normalizeScope_idem (value : Option Text) :
    normalizeScope (some (normalizeScope value)) = normalizeScope value :=
  (normalizeScope_normal value).normalize_eq

/-! ## The detector's marker -/

/-- The value of the last line that names a scope. -/
def lastScopeLine (text : Text) : Option Text :=
  ((markerLines text).filter fun marker => marker.name ∈ scopeMarkers).getLast?.map (·.value)

theorem scope_read (parsed : ParsedMarkers) (marker : MarkerValue) :
    (parsed.read marker).scope =
      if marker.name ∈ scopeMarkers then some (normalizeScope (some marker.value))
      else parsed.scope := by
  unfold ParsedMarkers.read
  by_cases hscope : marker.name ∈ scopeMarkers
  · have hline : marker.name ∈ allLineMarkers := by
      simp only [allLineMarkers, List.mem_append]
      exact .inl (.inr hscope)
    rw [if_neg (not_not_intro hline), if_pos hscope, if_pos hscope]
  · rw [if_neg hscope]
    split_ifs <;> rfl

theorem scope_foldl_read (markers : List MarkerValue) :
    (markers.foldl ParsedMarkers.read {}).scope =
      (markers.filter fun marker => marker.name ∈ scopeMarkers).getLast?.map
        fun marker => normalizeScope (some marker.value) := by
  induction markers using List.reverseRecOn with
  | nil => rfl
  | append_singleton markers marker ih =>
      rw [List.foldl_append, List.foldl_cons, List.foldl_nil, scope_read, List.filter_append]
      by_cases hscope : marker.name ∈ scopeMarkers
      · rw [if_pos hscope, List.filter_cons_of_pos (by simpa using hscope), List.filter_nil,
          List.getLast?_append_of_ne_nil _ (List.cons_ne_nil marker [])]
        rfl
      · rw [if_neg hscope, ih, List.filter_cons_of_neg (by simpa using hscope), List.filter_nil,
          List.append_nil]

theorem scope_extractMarkers (text : Text) :
    (extractMarkers text).scope =
      (lastScopeLine text).map fun value => normalizeScope (some value) := by
  change ((markerLines text).foldl ParsedMarkers.read {}).scope = _
  rw [scope_foldl_read, lastScopeLine, Option.map_map]
  rfl

theorem normalizeScope_getD (value : Option Text) :
    normalizeScope (some ((value.filter (· ≠ [])).getD "global".toList)) =
      normalizeScope value := by
  have hne : (value.filter (· ≠ [])).getD "global".toList ≠ [] := by
    cases hvalue : value.filter (· ≠ []) with
    | none => exact List.cons_ne_nil _ _
    | some text => simpa using (Option.filter_eq_some_iff.mp hvalue).2
  unfold normalizeScope
  rw [getD_filter_ne_nil hne]

/-- The detector's scope: that of the last scope line, or else of the row. -/
theorem rowScope_eq (row : ConflictSourceRow) :
    rowScope row =
      match lastScopeLine row.text with
      | some value => normalizeScope (some value)
      | none => normalizeScope row.currentStateScope := by
  rw [rowScope, ConflictSourceRow.scopeOf, scope_extractMarkers]
  cases lastScopeLine row.text with
  | none =>
      rw [Option.map_none, Option.filter_none, Option.none_or]
      exact normalizeScope_getD row.currentStateScope
  | some value =>
      have hne := (normalizeScope_normal (some value)).ne_nil
      rw [Option.map_some, Option.filter_some, if_pos (by simpa using hne), Option.some_or,
        Option.getD_some, normalizeScope_idem]

/-! ## The resolver's marker -/

/-- What the resolver reads through a line named `scope` or `current_state_scope`. -/
def scopeMarkerValue (text : Text) : Option Text :=
  match searchMarker "current_state_scope".toList true text,
    searchMarker "current-state-scope".toList true text with
  | some value, _ => some value
  | none, some _ => none
  | none, none => searchMarker "scope".toList true text

theorem extractMarker_eq (text : Text) :
    extractMarker (some text) =
      (searchMarker "current_state_scope".toList true text).or
        ((searchMarker "current-state-scope".toList true text).or
          ((searchMarker "scope".toList true text).or
            (searchMarker "anchor".toList true text))) := by
  rw [extractMarker, markerKeywords, Option.getD_some]
  cases hfirst : searchMarker "current_state_scope".toList true text with
  | some first => rw [List.findSome?_cons, hfirst, Option.some_or]
  | none =>
      rw [List.findSome?_cons, hfirst, Option.none_or]
      cases hsecond : searchMarker "current-state-scope".toList true text with
      | some second => rw [List.findSome?_cons, hsecond, Option.some_or]
      | none =>
          rw [List.findSome?_cons, hsecond, Option.none_or]
          cases hthird : searchMarker "scope".toList true text with
          | some third => rw [List.findSome?_cons, hthird, Option.some_or]
          | none =>
              rw [List.findSome?_cons, hthird, Option.none_or, List.findSome?_cons]
              cases searchMarker "anchor".toList true text <;> rfl

theorem extractMarker_of_scopeMarkerValue {text value : Text}
    (h : scopeMarkerValue text = some value) : extractMarker (some text) = some value := by
  rw [extractMarker_eq]
  unfold scopeMarkerValue at h
  split at h
  · rename_i hfirst
    rw [hfirst, Option.some_or, h]
  · contradiction
  · rename_i hfirst hsecond
    rw [hfirst, hsecond, h, Option.none_or, Option.none_or, Option.some_or]

theorem resolveScope_of_scopeMarkerValue {db : Database} {request : ScopeRequest}
    {text value : Text} (htext : request.contentText = some text)
    (hhint : nonBlank request.scopeHint = false) (hvalue : scopeMarkerValue text = some value)
    (hblank : nonBlank (some value) = true) :
    resolveScope db request = ⟨slugifyScope (some value), .marker⟩ := by
  have hmarker : extractMarker request.contentText = some value := by
    rw [htext]
    exact extractMarker_of_scopeMarkerValue hvalue
  rw [resolveScope, if_neg (by simp [hhint]), hmarker]
  exact if_pos hblank

/-! ## Agreement -/

/-- The text that the detector takes for the scope of a row: the last line that names one, or
what the row stores. -/
def detectorScopeText (row : ConflictSourceRow) : Option Text :=
  (lastScopeLine row.text).or row.currentStateScope

theorem rowScope_eq_normalizeScope (row : ConflictSourceRow) :
    rowScope row = normalizeScope (detectorScopeText row) := by
  rw [rowScope_eq, detectorScopeText]
  cases lastScopeLine row.text with
  | some value => rw [Option.some_or]
  | none => rw [Option.none_or]

/-- A note of one chunk of text, with nothing stored beside it. -/
def markedRow (text : Text) : ConflictSourceRow :=
  { contentId := some 1, workspaceId := some 1, text }

end MemoryLab.Conflicts

import MemoryLab.Verification.Scope.Slug

/-! # Texts that always get one scope

A marker decides alone. Without one the text counts without the space around it and without
case, and a hub that knows it tells it from every other. -/

namespace MemoryLab.ScopePipeline

open Library Library.Rows

/-! ## The hub tier -/

theorem termInText_self {text : Text} (h : minTermLen ≤ text.strip.lower.length) :
    termInText text text.strip.lower = true := by
  rw [termInText, if_neg (by omega), Text.occursBounded_self]

theorem termInText_of_length_le {text key : Text} (hlength : key.length ≤ text.strip.lower.length)
    (hne : key ≠ text.strip.lower) : termInText text key = false := by
  rw [Bool.eq_false_iff]
  intro h
  rw [termInText] at h
  split at h
  · cases h
  · have hpart := Text.infix_of_occursBounded h
    have hsame := hpart.length_le
    exact hne (hpart.sublist.eq_of_length (by omega)).symm

theorem termInText_of_short {term key : Text} (h : term.strip.lower.length < minTermLen) :
    termInText term key = false := by
  rw [termInText, if_pos h]

/-- A hub that goes by one more name. -/
def namedHub (workspaceId : WorkspaceId) (title name : Text) : Hub :=
  { hubId := ⟨1⟩, workspaceUuid := some workspaceId, active := true, title, aliases := [name],
    relatedTerms := [] }

section Hubs

variable {workspaceId : WorkspaceId} {title name contentText : Text}

theorem matchHubScope_of_term (htitle : ∀ key, termInText title key = false) (hne : title ≠ [])
    (hvisible : contentText.lower.strip ≠ []) (h : termInText name contentText.lower = true) :
    matchHubScope [namedHub workspaceId title name] workspaceId contentText =
      some (slugifyScope (some title)) := by
  simp [matchHubScope, namedHub, hvisible, htitle, h, uniqueBest, Leader.step, hne,
    maxCandidateRows]

theorem matchHubScope_of_not_term (htitle : ∀ key, termInText title key = false)
    (h : termInText name contentText.lower = false) :
    matchHubScope [namedHub workspaceId title name] workspaceId contentText = none := by
  simp [matchHubScope, namedHub, htitle, h, uniqueBest, maxCandidateRows, minWeakHits]

end Hubs

/-! ## The pipeline without a hint -/

/-- The scope when no tier finds one in the text. -/
def fallbackScope (request : ScopeRequest) : Text :=
  if nonBlank request.projectTopic then slugifyScope request.projectTopic
  else if nonBlank request.domainHint then slugifyScope request.domainHint
  else globalScope

/-- What a tier over the database finds. -/
def tierScope (found : WorkspaceId → Text → Option Text) (request : ScopeRequest) :
    Option Text :=
  specificScope (request.workspaceId.bind fun workspaceId =>
    if (request.contentText.getD []).strip = [] then none
    else found workspaceId (request.contentText.getD []).strip)

theorem nonBlank_none : nonBlank none = false := by decide

section Pipeline

variable (db : Database) (request : ScopeRequest)

theorem resolveScope_of_marker (hhint : nonBlank request.scopeHint = false)
    (hmarker : nonBlank (extractMarker request.contentText) = true) :
    (resolveScope db request).scope = slugifyScope (extractMarker request.contentText) := by
  simp [resolveScope, hhint, hmarker]

/-- Without a marker the lineage goes before the hubs. -/
theorem resolveScope_of_no_marker (hhint : nonBlank request.scopeHint = false)
    (hmarker : nonBlank (extractMarker request.contentText) = false) :
    (resolveScope db request).scope =
      ((tierScope (matchLineageScope db.anchors) request).or
        (tierScope (matchHubScope db.hubs) request)).getD (fallbackScope request) := by
  rw [resolveScope, hhint]
  dsimp only
  rw [hmarker, if_neg Bool.false_ne_true, if_neg Bool.false_ne_true]
  unfold tierScope
  generalize specificScope (request.workspaceId.bind fun workspaceId =>
    if (request.contentText.getD []).strip = [] then none
    else matchLineageScope db.anchors workspaceId (request.contentText.getD []).strip) = lineage
  generalize specificScope (request.workspaceId.bind fun workspaceId =>
    if (request.contentText.getD []).strip = [] then none
    else matchHubScope db.hubs workspaceId (request.contentText.getD []).strip) = hub
  cases lineage with
  | some scope => rfl
  | none =>
      cases hub with
      | some scope => rfl
      | none =>
          simp only [Option.none_or, Option.getD_none, fallbackScope]
          split_ifs <;> rfl

theorem matchLineageScope_nil (workspaceId : WorkspaceId) (text : Text) :
    matchLineageScope [] workspaceId text = none := by
  rw [matchLineageScope]
  dsimp only
  split <;> rfl

/-- The same question about another text. -/
def ScopeRequest.about (request : ScopeRequest) (text : Text) : ScopeRequest :=
  { request with contentText := some text }

/-! ## Two texts -/

variable {db request}

/-- Both texts have markers of one slug, or neither has one and their visible parts are the same
without case. -/
def ScopesAgree (left right : Text) : Prop :=
  match nonBlank (extractMarker (some left)), nonBlank (extractMarker (some right)) with
  | true, true =>
    slugifyScope (extractMarker (some left)) = slugifyScope (extractMarker (some right))
  | false, false => left.strip.lower = right.strip.lower
  | _, _ => False

instance (left right : Text) : Decidable (ScopesAgree left right) := by
  unfold ScopesAgree
  split <;> infer_instance

theorem lower_eq_nil_iff {text : Text} : text.lower = [] ↔ text = [] := by
  cases text with
  | nil => exact iff_of_true rfl rfl
  | cons c text => simp [Text.lower, Text.lowerChar_ne_nil]

theorem tierScope_congr {found : WorkspaceId → Text → Option Text}
    (hfound : ∀ workspaceId left right, left.lower = right.lower →
      found workspaceId left = found workspaceId right) {left right : Text}
    (h : left.strip.lower = right.strip.lower) :
    tierScope found (request.about left) = tierScope found (request.about right) := by
  have hnil : left.strip = [] ↔ right.strip = [] := by
    rw [← lower_eq_nil_iff, h, lower_eq_nil_iff]
  unfold tierScope
  congr 2
  funext workspaceId
  change (if left.strip = [] then none else found workspaceId left.strip) =
    if right.strip = [] then none else found workspaceId right.strip
  by_cases hempty : left.strip = []
  · rw [if_pos hempty, if_pos (hnil.mp hempty)]
  · rw [if_neg hempty, if_neg (fun h => hempty (hnil.mpr h)), hfound workspaceId _ _ h]

/-- Texts that agree get one scope in every database. -/
theorem ScopesAgree.resolveScope_eq {left right : Text} (h : ScopesAgree left right)
    (hhint : nonBlank request.scopeHint = false) :
    (resolveScope db (request.about left)).scope =
      (resolveScope db (request.about right)).scope := by
  cases hleft : nonBlank (extractMarker (some left)) <;>
    cases hright : nonBlank (extractMarker (some right)) <;>
    simp only [ScopesAgree, hleft, hright] at h
  · rw [resolveScope_of_no_marker db (request.about left) hhint hleft,
      resolveScope_of_no_marker db (request.about right) hhint hright,
      tierScope_congr (fun workspaceId left right hsame => by
        rw [matchLineageScope, contentTokens, hsame, ← contentTokens, ← matchLineageScope]) h,
      tierScope_congr (fun workspaceId left right hsame => by
        simp only [matchHubScope, hsame]) h]
    rfl
  · rw [resolveScope_of_marker db (request.about left) hhint hleft,
      resolveScope_of_marker db (request.about right) hhint hright]
    exact h

/-! ## A hub that tells texts apart -/

/-- A title too short to be looked for, and not the given scope. -/
def otherTitle (scope : Text) : Text := if scope = ['a'] then ['b'] else ['a']

theorem otherTitle_ne (scope : Text) : otherTitle scope ≠ scope := by
  unfold otherTitle
  split
  · rename_i h
    rw [h]
    decide
  · rename_i h
    exact fun hsame => h hsame.symm

theorem otherTitle_cases (scope : Text) : otherTitle scope = ['a'] ∨ otherTitle scope = ['b'] := by
  unfold otherTitle
  split
  · exact .inr rfl
  · exact .inl rfl

structure ShortTitle (title : Text) : Prop where
  ne_nil : title ≠ []
  ne_global : title ≠ globalScope
  slug : slugifyScope (some title) = title
  term : ∀ key, termInText title key = false

theorem shortTitle_other (scope : Text) : ShortTitle (otherTitle scope) := by
  rcases otherTitle_cases scope with h | h <;> rw [h]
  · exact ⟨by decide, by decide, by decide +kernel, fun key => termInText_of_short (by decide)⟩
  · exact ⟨by decide, by decide, by decide +kernel, fun key => termInText_of_short (by decide)⟩

section Named

variable {workspaceId : WorkspaceId} {title name text : Text}

theorem tierScope_lineage_nil (request : ScopeRequest) :
    tierScope (matchLineageScope []) request = none := by
  unfold tierScope
  cases request.workspaceId with
  | none => rfl
  | some workspaceId =>
      rw [Option.bind_some, matchLineageScope_nil, ite_self]
      rfl

/-- A text without a marker gets the title of the hub that it names. -/
theorem resolveScope_of_named (hanchors : db.anchors = [])
    (hhubs : db.hubs = [namedHub workspaceId title text]) (htitle : ShortTitle title)
    (hworkspace : request.workspaceId = some workspaceId)
    (hhint : nonBlank request.scopeHint = false)
    (hmarker : nonBlank (extractMarker (some text)) = false)
    (hlong : minTermLen ≤ Text.visibleCount text.strip.lower) :
    (resolveScope db (request.about text)).scope = title := by
  have hlength := hlong.trans (Text.visibleCount_le_length _)
  have hkey : text.strip.lower.strip ≠ [] :=
    Text.strip_ne_nil_of_visibleCount (lt_of_lt_of_le (by decide) hlong)
  have hne : text.strip ≠ [] := by
    rintro hnil
    rw [hnil] at hkey
    exact hkey rfl
  have hmatch : matchHubScope [namedHub workspaceId title text] workspaceId text.strip =
      some (slugifyScope (some title)) :=
    matchHubScope_of_term htitle.term htitle.ne_nil hkey (termInText_self hlength)
  have htier : tierScope (matchHubScope db.hubs) (request.about text) = some title := by
    unfold tierScope
    simp only [ScopeRequest.about, hworkspace, Option.bind_some, Option.getD_some, if_neg hne,
      hhubs, hmatch, htitle.slug]
    simp [specificScope, htitle.ne_nil, htitle.ne_global]
  rw [resolveScope_of_no_marker db (request.about text) hhint hmarker, htier, hanchors,
    tierScope_lineage_nil]
  rfl

/-- A text without a marker that does not name the hub gets the fallback. -/
theorem resolveScope_of_unnamed (hanchors : db.anchors = [])
    (hhubs : db.hubs = [namedHub workspaceId title name]) (htitle : ShortTitle title)
    (hworkspace : request.workspaceId = some workspaceId)
    (hhint : nonBlank request.scopeHint = false)
    (hmarker : nonBlank (extractMarker (some text)) = false)
    (hterm : termInText name text.strip.lower = false) :
    (resolveScope db (request.about text)).scope = fallbackScope request := by
  have hmatch : matchHubScope [namedHub workspaceId title name] workspaceId text.strip = none :=
    matchHubScope_of_not_term htitle.term hterm
  have htier : tierScope (matchHubScope db.hubs) (request.about text) = none := by
    unfold tierScope
    simp only [ScopeRequest.about, hworkspace, Option.bind_some, Option.getD_some, hhubs, hmatch,
      ite_self]
    rfl
  rw [resolveScope_of_no_marker db (request.about text) hhint hmarker, htier, hanchors,
    tierScope_lineage_nil]
  rfl

/-- Texts that do not agree are told apart by some hub. -/
theorem exists_hub_of_not_agree {left right : Text} (h : ¬ ScopesAgree left right)
    (hworkspace : request.workspaceId = some workspaceId)
    (hhint : nonBlank request.scopeHint = false)
    (hleft : minTermLen ≤ Text.visibleCount left.strip.lower)
    (hright : minTermLen ≤ Text.visibleCount right.strip.lower) :
    ∃ hub, ∀ db : Database, db.anchors = [] → db.hubs = [hub] →
      (resolveScope db (request.about left)).scope ≠
        (resolveScope db (request.about right)).scope := by
  cases hml : nonBlank (extractMarker (some left)) <;>
    cases hmr : nonBlank (extractMarker (some right)) <;>
    simp only [ScopesAgree, hml, hmr] at h
  · let title := otherTitle (fallbackScope request)
    rcases le_total left.strip.lower.length right.strip.lower.length with hlength | hlength
    · refine ⟨namedHub workspaceId title right, fun db hanchors hhubs => ?_⟩
      rw [resolveScope_of_named hanchors hhubs (shortTitle_other _) hworkspace hhint hmr hright,
        resolveScope_of_unnamed hanchors hhubs (shortTitle_other _) hworkspace hhint hml
          (termInText_of_length_le hlength h)]
      exact (otherTitle_ne _).symm
    · refine ⟨namedHub workspaceId title left, fun db hanchors hhubs => ?_⟩
      rw [resolveScope_of_named hanchors hhubs (shortTitle_other _) hworkspace hhint hml hleft,
        resolveScope_of_unnamed hanchors hhubs (shortTitle_other _) hworkspace hhint hmr
          (termInText_of_length_le hlength (Ne.symm h))]
      exact otherTitle_ne _
  · refine ⟨namedHub workspaceId (otherTitle (slugifyScope (extractMarker (some right)))) left,
      fun db hanchors hhubs => ?_⟩
    rw [resolveScope_of_named hanchors hhubs (shortTitle_other _) hworkspace hhint hml hleft,
      resolveScope_of_marker db (request.about right) hhint hmr]
    exact otherTitle_ne _
  · refine ⟨namedHub workspaceId (otherTitle (slugifyScope (extractMarker (some left)))) right,
      fun db hanchors hhubs => ?_⟩
    rw [resolveScope_of_named hanchors hhubs (shortTitle_other _) hworkspace hhint hmr hright,
      resolveScope_of_marker db (request.about left) hhint hml]
    exact (otherTitle_ne _).symm
  · refine ⟨namedHub workspaceId ['a'] [], fun db _ _ => ?_⟩
    rw [resolveScope_of_marker db (request.about left) hhint hml,
      resolveScope_of_marker db (request.about right) hhint hmr]
    exact h

end Named

end Pipeline

end MemoryLab.ScopePipeline

import MemoryLab.Verification.Scope.Texts

/-! # The line of a marker

The white space of the marker patterns takes in line ends, so what a search reads up to the
value need not be on one line. -/

namespace MemoryLab.ScopePipeline

open Library Library.Pattern

/-! ## Match objects -/

/-- The characters of a value. -/
def isValueChar (c : Char) : Bool := c ∉ ['\n', '#', ';']

/-- The match object of a marker pattern: the text before the match, what is read up to the
value, and the value. -/
structure MarkerMatch where
  keyword : Text
  front : Text
  read : Text
  value : Text
deriving DecidableEq

def matchAt (keyword front s : Text) : Option MarkerMatch :=
  ((markerPattern keyword).remainders s).findSome? fun rest =>
    let value := rest.takeWhile isValueChar
    if value = [] then none
    else some ⟨keyword, front, s.take (s.length - rest.length), value⟩

def searchMatch (keyword : Text) : Text → Bool → Text → Option MarkerMatch
  | front, lineStart, [] => if lineStart then matchAt keyword front [] else none
  | front, lineStart, c :: cs =>
    match if lineStart then matchAt keyword front (c :: cs) else none with
    | some found => some found
    | none => searchMatch keyword (front ++ [c]) (c == '\n') cs

def findMarker (text : Text) : Option MarkerMatch :=
  markerKeywords.findSome? fun keyword => searchMatch keyword [] true text

theorem map_matchAt (keyword front s : Text) :
    (matchAt keyword front s).map (·.value) = markerAt keyword s := by
  rw [matchAt, markerAt, List.map_findSome?]
  congr 1
  funext rest
  simp only [Function.comp_apply, apply_ite (Option.map _), Option.map_none, Option.map_some]
  rfl

theorem map_searchMatch (keyword front : Text) (lineStart : Bool) (s : Text) :
    (searchMatch keyword front lineStart s).map (·.value) = searchMarker keyword lineStart s := by
  induction s generalizing front lineStart with
  | nil =>
      rw [searchMatch, searchMarker]
      cases lineStart with
      | false => rfl
      | true => exact map_matchAt keyword front []
  | cons c cs ih =>
      rw [searchMatch, searchMarker]
      have hfirst : (if lineStart then matchAt keyword front (c :: cs) else none).map (·.value) =
          if lineStart then markerAt keyword (c :: cs) else none := by
        cases lineStart with
        | false => rfl
        | true => exact map_matchAt keyword front (c :: cs)
      rw [← hfirst]
      cases if lineStart then matchAt keyword front (c :: cs) else none with
      | none => exact ih (front ++ [c]) (c == '\n')
      | some found => rfl

/-- The marker tier returns the group of the match that the searches find. -/
theorem extractMarker_eq_map (text : Option Text) :
    extractMarker text = (findMarker (text.getD [])).map (·.value) := by
  rw [extractMarker, findMarker, List.map_findSome?]
  congr 1
  funext keyword
  exact (map_searchMatch keyword [] true (text.getD [])).symm

/-! ## What a match reads -/

/-- A keyword in any case. -/
def Spells (keyword name : Text) : Prop :=
  List.Forall₂ (fun letter c => eqIgnoreCase letter c = true) keyword name

def IsSeparator (c : Char) : Prop := c = ':' ∨ c = '='

def Blank (s : Text) : Prop := ∀ c ∈ s, Text.isSpace c = true

/-- A marker that is read: a keyword after blanks, and a separator between blanks. -/
def MarkerRead (keyword read : Text) : Prop :=
  ∃ lead name gap separator pad, read = lead ++ (name ++ (gap ++ separator :: pad)) ∧
    Spells keyword name ∧ Blank lead ∧ Blank gap ∧ Blank pad ∧ IsSeparator separator

theorem mem_remainders_markerPattern {keyword s rest : Text}
    (h : rest ∈ (markerPattern keyword).remainders s) :
    ∃ read, s = read ++ rest ∧ MarkerRead keyword read := by
  simp only [markerPattern, remainders, List.mem_flatMap] at h
  obtain ⟨afterLead, hlead, afterName, hname, afterGap, hgap, afterSeparator, hseparator, hpad⟩ :=
    h
  obtain ⟨lead, rfl, hleadSpace⟩ := mem_manyRemainders hlead
  obtain ⟨name, rfl, hspelled⟩ := mem_remainders_word.mp hname
  obtain ⟨gap, rfl, hgapSpace⟩ := mem_manyRemainders hgap
  obtain ⟨pad, rfl, hpadSpace⟩ := mem_manyRemainders hpad
  cases afterGap with
  | nil => cases hseparator
  | cons separator tail =>
      rw [remainders] at hseparator
      split at hseparator
      · rename_i hmem
        obtain rfl := List.mem_singleton.mp hseparator
        exact ⟨lead ++ (name ++ (gap ++ separator :: pad)), by simp, lead, name, gap, separator,
          pad, rfl, hspelled, hleadSpace, hgapSpace, hpadSpace, by simpa [IsSeparator] using hmem⟩
      · cases hseparator

/-- A match in a text: where it starts a line begins, and it ends with the value. -/
structure MatchIn (text : Text) (found : MarkerMatch) : Prop where
  known : found.keyword ∈ markerKeywords
  lineStart : found.front.getLast?.all (· == '\n') = true
  marker : MarkerRead found.keyword found.read
  exists_rest : ∃ rest, text = found.front ++ (found.read ++ (found.value ++ rest)) ∧
    rest.head?.any isValueChar = false
  value : ∀ c ∈ found.value, isValueChar c = true

theorem matchIn_of_matchAt {keyword front s : Text} {found : MarkerMatch}
    (hknown : keyword ∈ markerKeywords) (hstart : front.getLast?.all (· == '\n') = true)
    (h : matchAt keyword front s = some found) : MatchIn (front ++ s) found := by
  obtain ⟨rest, hrest, hfound⟩ := List.exists_of_findSome?_eq_some h
  dsimp only at hfound
  split at hfound
  · cases hfound
  · obtain rfl := Option.some.inj hfound
    obtain ⟨read, rfl, hread⟩ := mem_remainders_markerPattern hrest
    have htake : (read ++ rest).take ((read ++ rest).length - rest.length) = read := by simp
    refine ⟨hknown, hstart, ?_, ⟨rest.dropWhile isValueChar, ?_, ?_⟩, ?_⟩
    · simpa only [htake] using hread
    · simp only [htake, List.takeWhile_append_dropWhile]
    · have hhead := List.head?_dropWhile_not isValueChar rest
      cases hdrop : (rest.dropWhile isValueChar).head? with
      | none => rfl
      | some c => simpa [hdrop] using hhead
    · exact fun c hc => List.mem_takeWhile_imp hc

theorem matchIn_of_searchMatch {keyword front s : Text} {lineStart : Bool} {found : MarkerMatch}
    (hknown : keyword ∈ markerKeywords)
    (hstart : lineStart = true → front.getLast?.all (· == '\n') = true)
    (h : searchMatch keyword front lineStart s = some found) : MatchIn (front ++ s) found := by
  induction s generalizing front lineStart with
  | nil =>
      rw [searchMatch] at h
      split at h
      · rename_i hline
        exact matchIn_of_matchAt hknown (hstart hline) h
      · cases h
  | cons c cs ih =>
      rw [searchMatch] at h
      split at h
      · rename_i hfirst
        split at hfirst
        · rename_i hline
          rw [← Option.some.inj h]
          exact matchIn_of_matchAt hknown (hstart hline) hfirst
        · cases hfirst
      · have hrest := ih (fun hnewline => by simpa using hnewline) h
        simpa using hrest

theorem matchIn_of_findMarker {text : Text} {found : MarkerMatch}
    (h : findMarker text = some found) : MatchIn text found := by
  obtain ⟨keyword, hknown, hfound⟩ := List.exists_of_findSome?_eq_some h
  exact matchIn_of_searchMatch hknown (fun _ => rfl) hfound

/-! ## Keywords and separators -/

theorem isSpace_of_isLower {c : Char} (h : c.isLower = true) : Text.isSpace c = false := by
  rw [Text.isLower_iff] at h
  simp [Text.isSpace]
  omega

theorem isSpace_of_isUpper {c : Char} (h : c.isUpper = true) : Text.isSpace c = false := by
  rw [Text.isUpper_iff] at h
  simp [Text.isSpace]
  omega

theorem isSpace_of_eqIgnoreCase {letter c : Char} (hletter : letter.isLower = true)
    (h : eqIgnoreCase letter c = true) : Text.isSpace c = false := by
  simp only [eqIgnoreCase, Bool.or_eq_true, Bool.and_eq_true, beq_iff_eq] at h
  rcases h with rfl | ⟨-, rfl⟩
  · by_cases hupper : c.isUpper = true
    · exact isSpace_of_isUpper hupper
    · rw [Text.toLower_of_not_isUpper hupper] at hletter
      exact isSpace_of_isLower hletter
  · decide

theorem Spells.exists_cons {keyword name : Text} (hknown : keyword ∈ markerKeywords)
    (h : Spells keyword name) : ∃ c rest, name = c :: rest ∧ Text.isSpace c = false := by
  have hlower : ∀ keyword ∈ markerKeywords, keyword.head?.any Char.isLower = true := by decide
  have hkeyword := hlower keyword hknown
  cases h with
  | nil => cases hkeyword
  | cons hletter _ => exact ⟨_, _, rfl, isSpace_of_eqIgnoreCase (by simpa using hkeyword) hletter⟩

theorem IsSeparator.isSpace {c : Char} (h : IsSeparator c) : Text.isSpace c = false := by
  rcases h with rfl | rfl <;> decide

/-- Blanks before a character that is none are determined. -/
theorem blank_append_inj {gap gap' : Text} {separator separator' : Char} {rest rest' : Text}
    (hgap : Blank gap) (hgap' : Blank gap') (hseparator : IsSeparator separator)
    (hseparator' : IsSeparator separator')
    (h : gap ++ separator :: rest = gap' ++ separator' :: rest') :
    gap = gap' ∧ separator = separator' ∧ rest = rest' := by
  have hrun : ∀ {gap separator rest}, Blank gap → IsSeparator separator →
      (gap ++ separator :: rest).takeWhile Text.isSpace = gap := by
    intro gap separator rest hgap hseparator
    rw [List.takeWhile_append_of_pos hgap,
      List.takeWhile_cons_of_neg (by simp [hseparator.isSpace]), List.append_nil]
  have hsame : gap = gap' := by
    rw [← hrun hgap hseparator, h, hrun hgap' hseparator']
  subst hsame
  obtain ⟨rfl, rfl⟩ := List.cons.inj (List.append_cancel_left h)
  exact ⟨rfl, rfl, rfl⟩

/-! ## The line of the keyword -/

/-- A line in a text. -/
structure LineIn (text before line after : Text) : Prop where
  text_eq : text = before ++ (line ++ after)
  starts : before.getLast?.all (· == '\n') = true
  whole : '\n' ∉ line
  ends : after.head?.all (· == '\n') = true

/-- The scope is the slug of what stands after the separator on the line of the keyword. -/
def OwnLine (text scope : Text) (found : MarkerMatch) : Prop :=
  ∃ before line after blanks name gap separator own, LineIn text before line after ∧
    line = blanks ++ (name ++ (gap ++ separator :: own)) ∧
    before ++ blanks = found.front ++ found.read.takeWhile Text.isSpace ∧
    Spells found.keyword name ∧ Blank blanks ∧ Blank gap ∧ IsSeparator separator ∧
    nonBlank (some (own.takeWhile isValueChar)) = true ∧
    scope = slugifyScope (some (own.takeWhile isValueChar))

/-- The separator stands on the line of the keyword, and the value starts there. -/
def OnOneLine (found : MarkerMatch) : Prop := '\n' ∉ found.read.dropWhile Text.isSpace

theorem isValueChar_of_isSpace {c : Char} (hspace : Text.isSpace c = true) (hline : c ≠ '\n') :
    isValueChar c = true := by
  simp only [isValueChar, List.mem_cons, List.not_mem_nil, or_false, decide_eq_true_eq, not_or]
  refine ⟨hline, ?_, ?_⟩ <;> rintro rfl <;> exact absurd hspace (by decide)

theorem slugifyScope_append {pad value : Text} (hpad : Blank pad) :
    slugifyScope (some (pad ++ value)) = slugifyScope (some value) := by
  have hstrip : (pad ++ value).strip = value.strip := by
    rw [Text.strip, Text.strip, Text.stripChars, Text.stripChars,
      List.dropWhile_append_of_pos hpad]
  simp only [slugifyScope, Option.getD_some, hstrip]

theorem nonBlank_append {pad value : Text} (hpad : Blank pad) :
    nonBlank (some (pad ++ value)) = nonBlank (some value) := by
  rw [nonBlank, nonBlank, Option.getD_some, Option.getD_some, Text.strip, Text.strip,
    Text.stripChars, Text.stripChars, List.dropWhile_append_of_pos hpad]

theorem nonBlank_of_blank {s : Text} (h : Blank s) : nonBlank (some s) = false := by
  have hdrop : (s ++ []).dropWhile Text.isSpace = [].dropWhile Text.isSpace :=
    List.dropWhile_append_of_pos h
  rw [List.append_nil, List.dropWhile_nil] at hdrop
  rw [nonBlank, Option.getD_some, Text.strip, Text.stripChars, hdrop]
  rfl

/-- The text after the last line end, and what stands before. -/
theorem exists_lineStart (s : Text) :
    ∃ before line, s = before ++ line ∧ before.getLast?.all (· == '\n') = true ∧ '\n' ∉ line := by
  induction s using List.reverseRecOn with
  | nil => exact ⟨[], [], rfl, rfl, List.not_mem_nil⟩
  | append_singleton s c ih =>
      by_cases hc : c = '\n'
      · exact ⟨s ++ [c], [], by simp, by simp [hc], List.not_mem_nil⟩
      · obtain ⟨before, line, rfl, hstart, hline⟩ := ih
        exact ⟨before, line ++ [c], by simp, hstart, by simp [hline, Ne.symm hc]⟩

theorem exists_lineEnd (s : Text) :
    ∃ line after, s = line ++ after ∧ '\n' ∉ line ∧ after.head?.all (· == '\n') = true := by
  induction s with
  | nil => exact ⟨[], [], rfl, List.not_mem_nil, rfl⟩
  | cons c s ih =>
      by_cases hc : c = '\n'
      · exact ⟨[], c :: s, rfl, List.not_mem_nil, by simp [hc]⟩
      · obtain ⟨line, after, rfl, hline, hend⟩ := ih
        exact ⟨c :: line, after, rfl, by simp [hline, Ne.symm hc], hend⟩

section Match

variable {text : Text} {found : MarkerMatch} (hmatch : MatchIn text found)

include hmatch

/-- The parts of a match, with the blanks before the keyword apart. -/
theorem MatchIn.exists_parts :
    ∃ name gap separator pad rest,
      found.read.dropWhile Text.isSpace = name ++ (gap ++ separator :: pad) ∧
      text = (found.front ++ found.read.takeWhile Text.isSpace) ++
        (name ++ (gap ++ separator :: (pad ++ (found.value ++ rest)))) ∧
      rest.head?.any isValueChar = false ∧ Spells found.keyword name ∧ Blank gap ∧ Blank pad ∧
      IsSeparator separator := by
  obtain ⟨rest, htext, hrest⟩ := hmatch.exists_rest
  obtain ⟨lead, name, gap, separator, pad, hread, hspells, hlead, hgap, hpad, hseparator⟩ :=
    hmatch.marker
  have hdrop : found.read.dropWhile Text.isSpace = name ++ (gap ++ separator :: pad) := by
    obtain ⟨c, more, rfl, hc⟩ := hspells.exists_cons hmatch.known
    rw [hread, List.dropWhile_append_of_pos hlead]
    simp [hc]
  refine ⟨name, gap, separator, pad, rest, hdrop, ?_, hrest, hspells, hgap, hpad, hseparator⟩
  rw [htext]
  nth_rewrite 1 [← List.takeWhile_append_dropWhile (p := Text.isSpace) (l := found.read)]
  rw [hdrop]
  simp

end Match

/-- Where a match does not leave the keyword's line, the value is the text after the
separator. -/
theorem ownLine_of_onOneLine {text : Text} {found : MarkerMatch} (hmatch : MatchIn text found)
    (hvalue : nonBlank (some found.value) = true) (h : OnOneLine found) :
    OwnLine text (slugifyScope (some found.value)) found := by
  obtain ⟨name, gap, separator, pad, rest, hdrop, htext, hrest, hspells, hgap, hpad,
    hseparator⟩ := hmatch.exists_parts
  obtain ⟨lead, blanks, hlead, hstart, hblanks⟩ :=
    exists_lineStart (found.read.takeWhile Text.isSpace)
  obtain ⟨tail, after, hafter, htail, hend⟩ := exists_lineEnd rest
  have hblank : Blank blanks := fun c hc =>
    List.mem_takeWhile_imp (hlead ▸ List.mem_append_right lead hc)
  rw [OnOneLine, hdrop] at h
  simp only [List.mem_append, List.mem_cons, not_or] at h
  obtain ⟨hname, hgapLine, hseparatorLine, hpadLine⟩ := h
  have hown : (pad ++ (found.value ++ tail)).takeWhile isValueChar = pad ++ found.value := by
    rw [List.takeWhile_append_of_pos fun c hc => isValueChar_of_isSpace (hpad c hc) fun heq =>
      hpadLine (heq ▸ hc), List.takeWhile_append_of_pos hmatch.value]
    cases tail with
    | nil => simp
    | cons c tail =>
        rw [hafter] at hrest
        rw [List.takeWhile_cons_of_neg (by simpa using hrest), List.append_nil]
  have hfound : '\n' ∉ found.value := fun hmem => absurd (hmatch.value _ hmem) (by decide)
  refine ⟨found.front ++ lead, blanks ++ (name ++ (gap ++ separator :: (pad ++ (found.value ++
    tail)))), after, blanks, name, gap, separator, pad ++ (found.value ++ tail),
    ⟨?_, ?_, ?_, hend⟩, rfl, ?_, hspells, hblank, hgap, hseparator, ?_, ?_⟩
  · rw [htext, hlead, hafter]
    simp
  · have hfront := hmatch.lineStart
    rw [List.getLast?_append]
    cases hlast : lead.getLast? with
    | none => exact hfront
    | some c =>
        rw [hlast] at hstart
        exact hstart
  · simp only [List.mem_append, List.mem_cons, not_or]
    exact ⟨hblanks, hname, hgapLine, hseparatorLine, hpadLine, hfound, htail⟩
  · rw [hlead, List.append_assoc]
  · rw [hown, nonBlank_append hpad, hvalue]
  · rw [hown, slugifyScope_append hpad]

theorem onOneLine_of_ownLine {text scope : Text} {found : MarkerMatch}
    (hmatch : MatchIn text found) (h : OwnLine text scope found) : OnOneLine found := by
  obtain ⟨name, gap, separator, pad, rest, hdrop, htext, -, hspells, hgap, hpad, hseparator⟩ :=
    hmatch.exists_parts
  obtain ⟨before, line, after, blanks, name', gap', separator', own, hline, rfl, hplace, hspells',
    -, hgap', hseparator', hown, -⟩ := h
  have hrest : name' ++ (gap' ++ separator' :: (own ++ after)) =
      name ++ (gap ++ separator :: (pad ++ (found.value ++ rest))) := by
    have htext' := hline.text_eq.symm.trans htext
    rw [← hplace] at htext'
    simpa using htext'
  obtain ⟨rfl, hgaps⟩ := List.append_inj hrest
    (hspells'.length_eq.symm.trans hspells.length_eq)
  obtain ⟨rfl, rfl, howns⟩ := blank_append_inj hgap' hgap hseparator' hseparator hgaps
  have hwhole := hline.whole
  simp only [List.mem_append, List.mem_cons, not_or] at hwhole
  obtain ⟨-, hname, hgapLine, hseparatorLine, hownLine⟩ := hwhole
  have hpadLine : '\n' ∉ pad := by
    intro hmem
    rcases List.append_eq_append_iff.mp howns with ⟨more, rfl, -⟩ | ⟨more, rfl, -⟩
    · have hblank : Blank (own.takeWhile isValueChar) := fun c hc =>
        hpad c (List.mem_append_left _ ((List.takeWhile_sublist _).subset hc))
      rw [nonBlank_of_blank hblank] at hown
      cases hown
    · exact hownLine (List.mem_append_left _ hmem)
  rw [OnOneLine, hdrop]
  simp only [List.mem_append, List.mem_cons, not_or]
  exact ⟨hname, hgapLine, hseparatorLine, hpadLine⟩

/-! ## The marker tier -/

/-- Every other tier answers under its own name. -/
theorem resolveScope_source_eq_marker {db : Database} {request : ScopeRequest}
    (h : (resolveScope db request).source = .marker) :
    nonBlank (extractMarker request.contentText) = true ∧
      (resolveScope db request).scope = slugifyScope (extractMarker request.contentText) := by
  unfold resolveScope at h ⊢
  dsimp only at h ⊢
  by_cases hhint : nonBlank request.scopeHint = true
  · rw [if_pos hhint] at h
    cases h
  · rw [if_neg hhint] at h ⊢
    by_cases hmarker : nonBlank (extractMarker request.contentText) = true
    · exact ⟨hmarker, by rw [if_pos hmarker]⟩
    · rw [if_neg hmarker] at h
      split at h
      · cases h
      · cases h
      · split_ifs at h

/-- The text that a scope is asked for. -/
def ScopeRequest.text (request : ScopeRequest) : Text := request.contentText.getD []

/-- A scope from the marker tier comes from the marker's own line exactly when the first match
has its separator and the start of its value on the line of its keyword. -/
theorem markerScope_ownLine_iff (db : Database) (request : ScopeRequest)
    (hmarker : (resolveScope db request).source = .marker) :
    (∃ found, findMarker request.text = some found ∧
        OwnLine request.text (resolveScope db request).scope found) ↔
      ∀ found, findMarker request.text = some found → OnOneLine found := by
  obtain ⟨hvalue, hscope⟩ := resolveScope_source_eq_marker hmarker
  rw [extractMarker_eq_map] at hvalue hscope
  change nonBlank ((findMarker request.text).map (·.value)) = true at hvalue
  change _ = slugifyScope ((findMarker request.text).map (·.value)) at hscope
  cases hfound : findMarker request.text with
  | none =>
      rw [hfound] at hvalue
      cases hvalue
  | some found =>
      rw [hfound, Option.map_some] at hvalue hscope
      have hmatch := matchIn_of_findMarker hfound
      rw [hscope]
      constructor
      · rintro ⟨_, hsame, hown⟩ _ hsame'
        obtain rfl := Option.some.inj hsame
        obtain rfl := Option.some.inj hsame'
        exact onOneLine_of_ownLine hmatch hown
      · intro h
        exact ⟨found, rfl, ownLine_of_onOneLine hmatch hvalue (h found rfl)⟩

/-- A request about a text alone. -/
def textRequest (text : String) : ScopeRequest :=
  { workspaceId := none, contentText := some text.toList }

theorem markerScope_ownLine_iff_alpha :
    (∃ found, findMarker (textRequest "scope: alpha").text = some found ∧
        OwnLine (textRequest "scope: alpha").text
          (resolveScope {} (textRequest "scope: alpha")).scope found) ↔
      ∀ found, findMarker (textRequest "scope: alpha").text = some found → OnOneLine found :=
  markerScope_ownLine_iff {} (textRequest "scope: alpha") (by decide +kernel)

/-- An empty marker takes its scope from the next line. -/
theorem not_markerScope_ownLine :
    ¬ ∀ (db : Database) (request : ScopeRequest), (resolveScope db request).source = .marker →
      ∃ found, findMarker request.text = some found ∧
        OwnLine request.text (resolveScope db request).scope found := by
  intro h
  obtain ⟨found, hfound, hown⟩ := h {} (textRequest "scope:\nalpha") (by decide +kernel)
  have hread : found.read = "scope:\n".toList := by
    have hall : (findMarker (textRequest "scope:\nalpha").text).all
        (fun found => found.read = "scope:\n".toList) = true := by decide +kernel
    rw [hfound] at hall
    simpa using hall
  apply onOneLine_of_ownLine (matchIn_of_findMarker hfound) hown
  rw [hread]
  decide

end MemoryLab.ScopePipeline

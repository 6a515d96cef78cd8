import MemoryLab.Model.HubMatching

/-! # Literal matching of hubs

The patterns stand for themselves as long as an alias has no special characters. Where one has,
the hubs of a workspace can be found by other texts, or the search fails. -/

namespace MemoryLab.HubMatching

open Library Library.Stages
open Evidence (isTermChar)

/-! ## Literal tiers -/

def longAliasOccurs (q a : Text) : Bool := 6 ≤ a.length && decide (a.lower <:+: q)

def shortAliasOccurs (q a : Text) : Bool :=
  decide (3 ≤ a.length ∧ a.length ≤ 5) && Text.occursBounded isTermChar a.lower false q

/-- The conditions of a match, the strongest one first. -/
def literalTiers (q : Text) : List (Hub → Bool) :=
  [fun hub => hub.title.lower == q,
    fun hub => hub.aliases.any (·.lower == q),
    fun hub => hub.aliases.any (longAliasOccurs q),
    fun hub => hub.aliases.any (shortAliasOccurs q),
    fun hub => hub.relatedTerms.any (·.lower == q)]

/-- The match of a query raises no error, and is one of the lowest tier. -/
def MatchedLiterally (pg : PgRegex) (db : Database) (query : Text)
    (workspaceId : Option WorkspaceId) : Prop :=
  ∃ result, matchQuery pg db query workspaceId = .ok result ∧
    Tiered (literalTiers query.strip.lower) (Retrieval.visibleHubs db workspaceId) result

/-- Both ways to compare an alias with a query find it where it occurs. -/
structure Literal (pg : PgRegex) (q a : Text) : Prop where
  long : longAliasMatches q a = longAliasOccurs q a
  short : shortAliasMatches pg q a = some (shortAliasOccurs q a)

section Literal

variable {pg : PgRegex} {q : Text}

theorem occursBounded_iff {word : Char → Bool} {term s : Text} {before : Bool} :
    Text.occursBounded word term before s = true ↔
      ∃ front back, s = front ++ term ++ back ∧
        (front.getLast?.map word).getD before = false ∧ back.head?.any word = false := by
  induction s generalizing before with
  | nil =>
      rw [Text.occursBounded, Bool.and_eq_true, List.isEmpty_iff, Bool.not_eq_true']
      constructor
      · rintro ⟨rfl, rfl⟩
        exact ⟨[], [], rfl, rfl, rfl⟩
      · rintro ⟨front, back, hsplit, hfront, -⟩
        simp only [List.nil_eq, List.append_eq_nil_iff] at hsplit
        obtain ⟨⟨rfl, rfl⟩, rfl⟩ := hsplit
        exact ⟨hfront, rfl⟩
  | cons c cs ih =>
      rw [Text.occursBounded, Bool.or_eq_true, ih]
      constructor
      · rintro (hhere | ⟨front, back, rfl, hfront, hback⟩)
        · simp only [Bool.and_eq_true, Bool.not_eq_true', List.isPrefixOf_iff_prefix] at hhere
          obtain ⟨⟨hbefore, back, hback⟩, hafter⟩ := hhere
          rw [← hback, List.drop_left] at hafter
          exact ⟨[], back, hback.symm, hbefore, hafter⟩
        · refine ⟨c :: front, back, rfl, ?_, hback⟩
          cases hlast : front.getLast? with
          | none =>
              rw [List.getLast?_eq_none_iff] at hlast
              subst hlast
              exact hfront
          | some d => simpa [List.getLast?_cons, hlast] using hfront
      · rintro ⟨front, back, hsplit, hfront, hback⟩
        cases front with
        | nil =>
            left
            rw [hsplit]
            simp only [List.nil_append, Bool.and_eq_true, Bool.not_eq_true',
              List.isPrefixOf_iff_prefix, List.drop_left]
            exact ⟨⟨hfront, List.prefix_append _ _⟩, hback⟩
        | cons d front =>
            obtain ⟨rfl, rfl⟩ : c = d ∧ cs = front ++ term ++ back := by simpa using hsplit
            refine .inr ⟨front, back, rfl, ?_, hback⟩
            cases hlast : front.getLast? with
            | none =>
                rw [List.getLast?_eq_none_iff] at hlast
                subst hlast
                exact hfront
            | some d => simpa [List.getLast?_cons, hlast] using hfront

def likeMetacharacters : List Char := ['%', '_', '\\']

theorem ofLike_cons {c : Char} (hc : c ∉ likeMetacharacters) (cs : Text) :
    Pattern.ofLike (c :: cs) = .seq (.char c) (Pattern.ofLike cs) := by
  simp only [likeMetacharacters, List.mem_cons, List.not_mem_nil, or_false, not_or] at hc
  rw [Pattern.ofLike]
  · exact hc.1
  · exact hc.2.1
  · exact fun _ _ heq _ => hc.2.2 heq

theorem mem_manyRemainders_true {s rest : Text} :
    rest ∈ Pattern.manyRemainders (fun _ => true) s ↔ rest <:+ s := by
  induction s with
  | nil => simp [Pattern.manyRemainders]
  | cons c cs ih =>
      rw [Pattern.manyRemainders, if_pos rfl, List.mem_append, ih, List.mem_singleton,
        List.suffix_cons_iff, or_comm]

theorem nil_mem_remainders_ofLike {word s : Text} (hword : ∀ c ∈ word, c ∉ likeMetacharacters) :
    [] ∈ (Pattern.ofLike (word ++ ['%'])).remainders s ↔ word <+: s := by
  induction word generalizing s with
  | nil =>
      have hall : [] ∈ (Pattern.ofLike ['%']).remainders s := by
        rw [Pattern.ofLike, Pattern.remainders, List.mem_flatMap]
        exact ⟨[], mem_manyRemainders_true.mpr (List.nil_suffix), by decide⟩
      exact iff_of_true hall List.nil_prefix
  | cons c word ih =>
      rw [List.cons_append, ofLike_cons (hword c List.mem_cons_self), Pattern.remainders]
      cases s with
      | nil => simp [Pattern.char, Pattern.remainders]
      | cons d s =>
          have hrest := ih (s := s) fun e he => hword e (List.mem_cons_of_mem c he)
          by_cases hcd : d = c
          · subst hcd
            simpa [Pattern.char, Pattern.remainders] using hrest
          · simp [Pattern.char, Pattern.remainders, hcd, Ne.symm hcd]

/-- A word without special characters is found where it occurs. -/
theorem likeContains_of_plain {word s : Text} (hword : ∀ c ∈ word, c ∉ likeMetacharacters) :
    likeContains word s = decide (word <:+: s) := by
  rw [Bool.eq_iff_iff, decide_eq_true_eq, likeContains, Pattern.matchesAll, decide_eq_true_eq,
    List.cons_append, Pattern.ofLike, Pattern.remainders, List.mem_flatMap]
  simp only [Pattern.remainders, mem_manyRemainders_true, nil_mem_remainders_ofLike hword]
  rw [List.infix_iff_prefix_suffix]
  exact exists_congr fun rest => and_comm

/-- No character of a text is special in a pattern or in an expression. -/
def Plain (a : Text) : Prop :=
  ∀ c ∈ a.lower, c ∉ likeMetacharacters ∧ c ∉ regexMetacharacters

theorem literal_of_plain {a : Text} (h : Plain a) : Literal pg q a where
  long := by
    rw [longAliasMatches, likeContains_of_plain fun c hc => (h c hc).1, longAliasOccurs]
  short := by
    rw [shortAliasMatches, pg.search_word _ _ fun c hc => (h c hc).2, shortAliasOccurs]
    split
    · rename_i hlength
      simp [hlength]
    · rename_i hlength
      simp [hlength]

end Literal

/-! ## Matches -/

/-- A hub with some of its aliases and related terms left out. -/
structure Trimmed (trimmed hub : Hub) : Prop where
  active : trimmed.active = hub.active
  workspaceUuid : trimmed.workspaceUuid = hub.workspaceUuid
  title : trimmed.title = hub.title
  aliases : trimmed.aliases ⊆ hub.aliases
  relatedTerms : trimmed.relatedTerms ⊆ hub.relatedTerms

/-- Hubs of a database, in any order, with any of their strings but the titles left out. -/
def TrimmedFrom (hubs : List Hub) (db : Database) : Prop :=
  ∀ trimmed ∈ hubs, ∃ hub ∈ db.hubs, Trimmed trimmed hub

/-- A query is compared literally with every alias other than itself, for hubs of other titles. -/
structure ComparedLiterally (pg : PgRegex) (db : Database) (query : Text)
    (workspaceId : Option WorkspaceId) : Prop where
  storable : storable query.strip.lower = true
  aliases : ∀ hub ∈ Retrieval.visibleHubs db workspaceId, hub.title.lower ≠ query.strip.lower →
    ∀ a ∈ hub.aliases, a.lower ≠ query.strip.lower → Literal pg query.strip.lower a

section Matches

variable {pg : PgRegex} {db : Database} {query : Text} {workspaceId : Option WorkspaceId}

theorem exists_search {rows : List Hub} {q : Text}
    (h : ∀ hub ∈ rows, hub.title.lower ≠ q → ∀ a ∈ hub.aliases, a.lower ≠ q → Literal pg q a) :
    ∃ result, search rows (hubStages pg q) = some result ∧
      Tiered (literalTiers q) rows result := by
  refine exists_search_cons (fun _ _ => rfl) fun htitle => ?_
  refine exists_search_cons (fun _ _ => rfl) fun halias => ?_
  have hliteral : ∀ hub ∈ rows, ∀ a ∈ hub.aliases, Literal pg q a := by
    intro hub hhub a ha
    have hne : hub.title.lower ≠ q := by simpa using htitle hub hhub
    have hne' : a.lower ≠ q := by simpa using List.any_eq_false.mp (halias hub hhub) a ha
    exact h hub hhub hne a ha hne'
  have hlong : Decides (fun hub : Hub => some (hub.aliases.any (longAliasMatches q)))
      (fun hub => hub.aliases.any (longAliasOccurs q)) rows := by
    intro hub hhub
    have hany : hub.aliases.any (longAliasMatches q) = hub.aliases.any (longAliasOccurs q) := by
      rw [Bool.eq_iff_iff, List.any_eq_true, List.any_eq_true]
      exact exists_congr fun a => and_congr_right fun ha => by rw [(hliteral hub hhub a ha).long]
    exact congrArg some hany
  have hshort : Decides (fun hub : Hub => anyTest (shortAliasMatches pg q) hub.aliases)
      (fun hub => hub.aliases.any (shortAliasOccurs q)) rows := fun hub hhub =>
    anyTest_of_decides fun a ha => (hliteral hub hhub a ha).short
  refine exists_search_cons hlong fun _ => exists_search_cons hshort fun _ => ?_
  exact exists_search_cons (fun _ _ => rfl) fun _ => ⟨none, rfl, tiered_nil⟩

theorem matchedLiterally_of_compared (h : ComparedLiterally pg db query workspaceId) :
    MatchedLiterally pg db query workspaceId := by
  obtain ⟨result, hresult, htiered⟩ := exists_search h.aliases
  refine ⟨result, ?_, htiered⟩
  rw [matchQuery, h.storable, hresult]
  rfl

/-- A visible hub of the trimmed ones comes from a visible hub. -/
theorem ComparedLiterally.trimmed {hubs : List Hub} (htrimmed : TrimmedFrom hubs db)
    (h : ComparedLiterally pg db query workspaceId) :
    ComparedLiterally pg { db with hubs } query workspaceId where
  storable := h.storable
  aliases := by
    intro trimmed hvisible htitle a ha hne
    obtain ⟨hmem, hactive⟩ := List.mem_filter.mp hvisible
    obtain ⟨hub, hhub, htrim⟩ := htrimmed trimmed hmem
    refine h.aliases hub (List.mem_filter.mpr ⟨hhub, ?_⟩) (htrim.title ▸ htitle) a
      (htrim.aliases ha) hne
    rw [← htrim.active, ← htrim.workspaceUuid]
    exact hactive

/-- A hub with one alias and no related terms. -/
def lone (hub : Hub) (a : Text) : Hub := { hub with aliases := [a], relatedTerms := [] }

theorem trimmedFrom_lone {hub : Hub} {a : Text} (hhub : hub ∈ db.hubs) (ha : a ∈ hub.aliases) :
    TrimmedFrom [lone hub a] db := by
  intro trimmed htrimmed
  obtain rfl := List.mem_singleton.mp htrimmed
  exact ⟨hub, hhub, rfl, rfl, rfl, by simpa [lone] using ha, by simp [lone]⟩

theorem visibleHubs_lone {hub : Hub} {a : Text}
    (h : hub ∈ Retrieval.visibleHubs db workspaceId) :
    Retrieval.visibleHubs { db with hubs := [lone hub a] } workspaceId = [lone hub a] := by
  rw [Retrieval.visibleHubs, List.filter_eq_self]
  intro trimmed htrimmed
  obtain rfl := List.mem_singleton.mp htrimmed
  exact (List.mem_filter.mp h).2

theorem search_lone {hub : Hub} {q a : Text} (htitle : hub.title.lower ≠ q)
    (ha : a.lower ≠ q) :
    search [lone hub a] (hubStages pg q) =
      if longAliasMatches q a then some (some (lone hub a))
      else (shortAliasMatches pg q a).map fun found => if found then some (lone hub a) else none := by
  have htitle' : (hub.title.lower == q) = false := by simpa using htitle
  have ha' : (a.lower == q) = false := by simpa using ha
  cases hlong : longAliasMatches q a with
  | true => simp [hubStages, search, findTest, lone, htitle', ha', hlong]
  | false =>
      cases hshort : shortAliasMatches pg q a with
      | none => simp [hubStages, search, findTest, anyTest, lone, htitle', ha', hlong, hshort]
      | some found =>
          cases found <;>
            simp [hubStages, search, findTest, anyTest, lone, htitle', ha', hlong, hshort]

theorem isSome_iff_of_tiered_lone {hub : Hub} {q a : Text} {result : Option Hub}
    (htitle : hub.title.lower ≠ q) (ha : a.lower ≠ q)
    (h : Tiered (literalTiers q) [lone hub a] result) :
    result.isSome = (longAliasOccurs q a || shortAliasOccurs q a) := by
  rw [Bool.eq_iff_iff, h.isSome_iff]
  simp [literalTiers, lone, htitle, ha]

theorem search_of_matchQuery {result : Option Hub}
    (h : matchQuery pg db query workspaceId = .ok result) :
    storable query.strip.lower = true ∧
      search (Retrieval.visibleHubs db workspaceId) (hubStages pg query.strip.lower) =
        some result := by
  rw [matchQuery] at h
  split at h
  · cases h
  · rename_i hstorable
    split at h
    · cases h
    · rename_i hub hsearch
      cases h
      exact ⟨by simpa using hstorable, hsearch⟩

/-- A match by one alias alone is right only when the alias is compared literally. -/
theorem literal_of_matchedLiterally {hub : Hub} {a : Text}
    (hvisible : hub ∈ Retrieval.visibleHubs db workspaceId)
    (htitle : hub.title.lower ≠ query.strip.lower) (ha : a.lower ≠ query.strip.lower)
    (h : MatchedLiterally pg { db with hubs := [lone hub a] } query workspaceId) :
    Literal pg query.strip.lower a := by
  obtain ⟨result, hresult, htiered⟩ := h
  have hsearch := (search_of_matchQuery hresult).2
  rw [visibleHubs_lone hvisible] at hsearch htiered
  rw [search_lone htitle ha] at hsearch
  have hsome := isSome_iff_of_tiered_lone htitle ha htiered
  by_cases hlength : 6 ≤ a.length
  · -- a long alias is not compared with the expression
    have hshort : ¬ (3 ≤ a.length ∧ a.length ≤ 5) := by omega
    have hmatches : shortAliasMatches pg query.strip.lower a = some false := if_neg hshort
    have hoccurs : shortAliasOccurs query.strip.lower a = false := by
      simp [shortAliasOccurs, hshort]
    refine ⟨?_, by rw [hmatches, hoccurs]⟩
    rw [hoccurs, Bool.or_false] at hsome
    rw [hmatches] at hsearch
    cases hlong : longAliasMatches query.strip.lower a with
    | true =>
        rw [hlong, if_pos rfl] at hsearch
        obtain rfl := Option.some.inj hsearch
        exact hsome
    | false =>
        rw [hlong, if_neg Bool.false_ne_true] at hsearch
        obtain rfl := Option.some.inj hsearch
        exact hsome
  · -- a short one is not compared with the pattern
    have hmatches : longAliasMatches query.strip.lower a = false := by
      simp [longAliasMatches, hlength]
    have hoccurs : longAliasOccurs query.strip.lower a = false := by
      simp [longAliasOccurs, hlength]
    refine ⟨by rw [hmatches, hoccurs], ?_⟩
    rw [hoccurs, Bool.false_or] at hsome
    rw [hmatches, if_neg Bool.false_ne_true] at hsearch
    cases hshort : shortAliasMatches pg query.strip.lower a with
    | none =>
        rw [hshort] at hsearch
        cases hsearch
    | some found =>
        rw [hshort] at hsearch
        obtain rfl := Option.some.inj hsearch
        cases found <;> exact congrArg some hsome

/-- Without failing expressions, a match is what the search of the retrieval finds. -/
theorem matchQuery_eq_retrieval {env : Retrieval.Environment}
    (h : ∀ hub ∈ Retrieval.visibleHubs db workspaceId, ∀ a ∈ hub.aliases,
      3 ≤ a.length ∧ a.length ≤ 5 → pg.search (boundedExpression a.lower) query.strip.lower =
        some (env.shortAliasMatches a.lower query.strip.lower)) :
    (matchQuery pg db query workspaceId).toOption =
      (Retrieval.matchQuery env db query workspaceId).toOption := by
  have hshort : Decides
      (fun hub : Hub => anyTest (shortAliasMatches pg query.strip.lower) hub.aliases)
      (fun hub => hub.aliases.any fun a => 3 ≤ a.length && a.length ≤ 5 &&
        env.shortAliasMatches a.lower query.strip.lower)
      (Retrieval.visibleHubs db workspaceId) := by
    intro hub hhub
    refine anyTest_of_decides fun a ha => ?_
    unfold shortAliasMatches
    split
    · rename_i hlength
      rw [h hub hhub a ha hlength]
      simp [hlength]
    · rename_i hlength
      rw [not_and_or] at hlength
      rcases hlength with hlength | hlength <;> simp [hlength]
  have hsearch : search (Retrieval.visibleHubs db workspaceId) (hubStages pg query.strip.lower) =
      some ((Retrieval.hubStages env query.strip.lower).findSome? fun stage =>
        (Retrieval.visibleHubs db workspaceId).find? stage) :=
    search_of_decides (.cons (fun _ _ => rfl) (.cons (fun _ _ => rfl)
      (.cons (fun _ _ => rfl) (.cons hshort (.cons (fun _ _ => rfl) .nil)))))
  rw [matchQuery, Retrieval.matchQuery, hsearch]
  split <;> rfl

end Matches

/-- The word between the bounds of an expression. -/
def wordOf (expression : Text) : Text :=
  (expression.drop frontBound.length).take
    (expression.length - (frontBound.length + backBound.length))

theorem wordOf_boundedExpression (word : Text) : wordOf (boundedExpression word) = word := by
  have hlength : (boundedExpression word).length - (frontBound.length + backBound.length) =
      word.length := by
    rw [boundedExpression, List.length_append, List.length_append]
    generalize frontBound.length = front
    generalize backBound.length = back
    omega
  rw [wordOf, hlength, boundedExpression, List.append_assoc, List.drop_left, List.take_left]

/-- Expressions that are read only where they are plain words between the two bounds. -/
def plainRegex : PgRegex where
  search expression text :=
    if expression = boundedExpression (wordOf expression) ∧
        (wordOf expression).all fun c => decide (c ∉ regexMetacharacters) then
      some (Text.occursBounded isTermChar (wordOf expression) false text)
    else none
  search_word word text hword := by
    have hall : word.all (fun c => decide (c ∉ regexMetacharacters)) = true :=
      List.all_eq_true.mpr fun c hc => decide_eq_true (hword c hc)
    rw [wordOf_boundedExpression, if_pos ⟨rfl, hall⟩]

end MemoryLab.HubMatching

import MemoryLab.Model.ClassifyCatchup
import MemoryLab.Verification.Chunking.Joined

/-! # Phrases in the chunks of a body

What the classifier looks for lies on one line, so in joined chunks it is found inside one of
them. Where neighbours overlap, no phrase of the body is cut. -/

namespace MemoryLab.Classify

open Library Adapter Chunking

/-! ## Finding a phrase -/

/-- The words that a phrase stands for. -/
def Phrase.Matches (phrase : Phrase) (word : Text) : Prop :=
  List.Forall₂ (fun p c => p c = true) phrase word

theorem startsWith_iff {phrase : Phrase} {text : Text} :
    startsWith phrase text = true ↔ ∃ word, phrase.Matches word ∧ word <+: text := by
  induction phrase generalizing text with
  | nil => exact iff_of_true rfl ⟨[], .nil, List.nil_prefix⟩
  | cons p phrase ih =>
      cases text with
      | nil =>
          refine iff_of_false Bool.false_ne_true ?_
          rintro ⟨word, hmatches, hprefix⟩
          rw [List.prefix_nil.mp hprefix] at hmatches
          cases hmatches
      | cons c text =>
          rw [startsWith, Bool.and_eq_true, ih]
          constructor
          · rintro ⟨hp, word, hmatches, hprefix⟩
            exact ⟨c :: word, .cons hp hmatches, List.cons_prefix_cons.mpr ⟨rfl, hprefix⟩⟩
          · rintro ⟨word, hmatches, hprefix⟩
            cases hmatches with
            | cons hp hmatches =>
                obtain ⟨rfl, hrest⟩ := List.cons_prefix_cons.mp hprefix
                exact ⟨hp, _, hmatches, hrest⟩

theorem occursIn_iff {text : Text} {phrase : Phrase} :
    occursIn text phrase = true ↔ ∃ word, phrase.Matches word ∧ word <:+: text := by
  simp only [occursIn, List.any_eq_true, List.mem_tails, startsWith_iff]
  constructor
  · rintro ⟨tail, htail, word, hmatches, hprefix⟩
    exact ⟨word, hmatches, hprefix.isInfix.trans htail.isInfix⟩
  · rintro ⟨word, hmatches, hpart⟩
    obtain ⟨tail, hprefix, hsuffix⟩ := List.infix_iff_prefix_suffix.mp hpart
    exact ⟨tail, hsuffix, word, hmatches, hprefix⟩

/-- A phrase on one line, no longer than the overlap of chunks. -/
structure Phrase.Plain (phrase : Phrase) : Prop where
  ne_nil : phrase ≠ []
  length_le : phrase.length ≤ 80
  one_line : ∀ p ∈ phrase, p '\n' = false

theorem Phrase.Matches.length_eq {phrase : Phrase} {word : Text} (h : phrase.Matches word) :
    word.length = phrase.length :=
  (List.Forall₂.length_eq h).symm

theorem Phrase.Matches.newline_notMem {phrase : Phrase} {word : Text} (h : phrase.Matches word)
    (hline : ∀ p ∈ phrase, p '\n' = false) : '\n' ∉ word := by
  induction h with
  | nil => exact List.not_mem_nil
  | cons hp _ ih =>
      rw [List.mem_cons, not_or]
      refine ⟨?_, ih fun p hmem => hline p (List.mem_cons_of_mem _ hmem)⟩
      rintro rfl
      rw [hline _ List.mem_cons_self] at hp
      cases hp

variable {phrase : Phrase}

theorem Phrase.Plain.occursIn_append (h : phrase.Plain) (front back : Text) :
    occursIn (front ++ '\n' :: back) phrase = (occursIn front phrase || occursIn back phrase) := by
  rw [Bool.eq_iff_iff, Bool.or_eq_true, occursIn_iff, occursIn_iff, occursIn_iff]
  constructor
  · rintro ⟨word, hmatches, hpart⟩
    exact ((Text.infix_append_cons_iff (hmatches.newline_notMem h.one_line)).mp hpart).imp
      (fun hleft => ⟨word, hmatches, hleft⟩) fun hright => ⟨word, hmatches, hright⟩
  · rintro (⟨word, hmatches, hpart⟩ | ⟨word, hmatches, hpart⟩)
    · exact ⟨word, hmatches, List.infix_append_of_infix_left hpart⟩
    · exact ⟨word, hmatches, List.infix_append_of_infix_right (List.infix_cons hpart)⟩

theorem Phrase.Plain.occursIn_nil (h : phrase.Plain) : occursIn [] phrase = false := by
  rw [Bool.eq_false_iff, ne_eq, occursIn_iff]
  rintro ⟨word, hmatches, hpart⟩
  have hlength := hmatches.length_eq
  rw [List.eq_nil_of_infix_nil hpart, List.length_nil] at hlength
  exact h.ne_nil (List.length_eq_zero_iff.mp hlength.symm)

/-! ## Joined chunks -/

theorem lower_newline (text : Text) : Text.lower ('\n' :: text) = '\n' :: Text.lower text :=
  rfl

/-- In texts joined with blank lines a phrase is found inside one of them. -/
theorem Phrase.Plain.occursIn_joined (h : phrase.Plain) (parts : List Text) :
    occursIn (Text.lower ("\n\n".toList.intercalate parts)) phrase =
      parts.any fun part => occursIn (Text.lower part) phrase := by
  induction parts with
  | nil => exact h.occursIn_nil
  | cons part parts ih =>
      cases parts with
      | nil => simp [List.intercalate_singleton]
      | cons next parts =>
          have hjoin : "\n\n".toList.intercalate (part :: next :: parts) =
              part ++ '\n' :: '\n' :: "\n\n".toList.intercalate (next :: parts) := by
            simp [List.intercalate_cons_cons]
          have hempty : occursIn ('\n' :: Text.lower ("\n\n".toList.intercalate (next :: parts)))
              phrase = occursIn (Text.lower ("\n\n".toList.intercalate (next :: parts)))
                phrase := by
            have hsplit := h.occursIn_append []
              (Text.lower ("\n\n".toList.intercalate (next :: parts)))
            rwa [h.occursIn_nil, Bool.false_or] at hsplit
          rw [hjoin, Text.lower_append, lower_newline, lower_newline, h.occursIn_append, hempty,
            ih, List.any_cons, List.any_cons, List.any_cons]

/-- What is found inside the stored chunks of a body. -/
def foundInChunks (content : Text) (phrase : Phrase) : Bool :=
  ((bodyRows content).map (·.2)).any fun part => occursIn (Text.lower part) phrase

theorem Phrase.Plain.occursIn_fullText (h : phrase.Plain) (tier : Option Text) (content : Text) :
    occursIn (fullText { content, tier }) phrase = occursIn (Text.lower content) phrase := by
  change occursIn ([] ++ '\n' :: Text.lower content) phrase = _
  rw [h.occursIn_append, h.occursIn_nil, Bool.false_or]

theorem Phrase.Plain.occursIn_joinedBody (h : phrase.Plain) (tier : Option Text)
    (content : Text) :
    occursIn (fullText { content := joinedBody content, tier }) phrase =
      foundInChunks content phrase := by
  rw [h.occursIn_fullText, joinedBody, h.occursIn_joined]
  rfl

/-! ## Overlapping chunks -/

/-- Every chunk that has a successor is longer than the overlap, and so shares characters with
it. -/
def Overlapping (overlapChars : ℕ) (chunks : List ContentChunk) : Prop :=
  ∀ chunk ∈ chunks.dropLast, overlapChars < chunk.text.length

/-- A window no longer than the overlap lies in one chunk. -/
theorem exists_chunk_of_window {config : ChunkerConfig} (hvalid : config.validate = .ok ())
    {text : Text} {index start : ℕ} {chunks : List ContentChunk}
    (h : Covers config text index start chunks)
    (hoverlap : Overlapping config.overlapChars chunks) {i j : ℕ} (hi : start ≤ i)
    (hj : j ≤ text.length) (hlength : j - i ≤ config.overlapChars) :
    ∃ chunk ∈ chunks, chunk.text = text.slice chunk.charStart chunk.charEnd ∧
      chunk.charStart ≤ i ∧ j ≤ chunk.charEnd ∧ chunk.charEnd ≤ text.length := by
  induction h with
  | @last index start hstart hend =>
      have hspec := chunkAt_spec hvalid index hstart
      exact ⟨_, List.mem_singleton_self _, hspec.text_eq, hi, hj.trans hend, hspec.end_le⟩
  | @step index start rest hstart hend hrest ih =>
      have hspec := chunkAt_spec hvalid index hstart
      have hcs : (chunkAt config text index start).charStart = start := rfl
      by_cases hinside : j ≤ (chunkAt config text index start).charEnd
      · exact ⟨_, List.mem_cons_self, hspec.text_eq, hi, hinside, hspec.end_le⟩
      · have hne : rest ≠ [] := List.length_pos_iff.mp hrest.length_pos
        rw [Overlapping, List.dropLast_cons_of_ne_nil hne] at hoverlap
        have hlong := hoverlap _ List.mem_cons_self
        rw [hspec.length_text] at hlong
        have hnext : nextStart config start (chunkAt config text index start).charEnd =
            (chunkAt config text index start).charEnd - config.overlapChars := by
          rw [nextStart, if_neg (by omega)]
        obtain ⟨chunk, hchunk, hwindow⟩ := ih
          (fun chunk hchunk => hoverlap chunk (List.mem_cons_of_mem _ hchunk))
          (by rw [hnext]; omega)
        exact ⟨chunk, List.mem_cons_of_mem _ hchunk, hwindow⟩

section Whole

variable {content : Text}

theorem infix_slice {start stop i j : ℕ} (hi : start ≤ i) (hj : j ≤ stop) (hij : i ≤ j) :
    content.slice i j <:+: content.slice start stop := by
  have hleft := Text.slice_append_slice content hi (hij.trans hj)
  have hright := Text.slice_append_slice content hij hj
  rw [← hleft, ← hright]
  exact ⟨_, _, by rw [List.append_assoc]⟩

/-- What is found in the body is found in a chunk, and the other way round. -/
theorem Phrase.Plain.foundInChunks_eq (h : phrase.Plain) (hcr : '\r' ∉ content)
    (hvisible : content.strip ≠ []) (hguard : (chunkText content).degraded = false)
    (hoverlap : Overlapping 80 (chunkText content).chunks) :
    foundInChunks content phrase = occursIn (Text.lower content) phrase := by
  have hcovers := chunkText_covers hcr hvisible hguard
  have hrows : (bodyRows content).map (·.2) = (chunkText content).chunks.map (·.text) := by
    rw [bodyRows_of_visible hcr hvisible hguard, List.map_map]
    rfl
  rw [Bool.eq_iff_iff, foundInChunks, hrows, List.any_eq_true, occursIn_iff]
  constructor
  · rintro ⟨part, hpart, hfound⟩
    obtain ⟨chunk, hchunk, rfl⟩ := List.mem_map.mp hpart
    obtain ⟨word, hmatches, hwithin⟩ := occursIn_iff.mp hfound
    refine ⟨word, hmatches, hwithin.trans (Text.infix_lower ?_)⟩
    exact hcovers.infix_text rfl chunk hchunk
  · rintro ⟨word, hmatches, hpart⟩
    have hword : word ≠ [] := by
      intro hnil
      have hlength := hmatches.length_eq
      rw [hnil, List.length_nil] at hlength
      exact h.ne_nil (List.length_eq_zero_iff.mp hlength.symm)
    obtain ⟨front, mid, back, hsplit, hmid, hmidInfix⟩ :=
      Text.infix_flatMap Text.lowerChar_ne_nil hword hpart
    have hlength := h.length_le
    rw [← hmatches.length_eq] at hlength
    have hwindow : content.slice front.length (front.length + mid.length) = mid := by
      rw [hsplit, Text.slice, List.append_assoc, List.drop_left, Nat.add_sub_cancel_left,
        List.take_left]
    obtain ⟨chunk, hchunk, htext, hi, hj, -⟩ := exists_chunk_of_window rfl hcovers hoverlap
      (i := front.length) (j := front.length + mid.length) (Nat.zero_le _)
      (by rw [hsplit]; simp) (by change _ ≤ 80; omega)
    refine ⟨chunk.text, List.mem_map_of_mem hchunk, occursIn_iff.mpr ⟨word, hmatches, ?_⟩⟩
    refine hmidInfix.trans (Text.infix_lower ?_)
    rw [htext, ← hwindow]
    exact infix_slice hi hj (Nat.le_add_right _ _)

end Whole

end MemoryLab.Classify

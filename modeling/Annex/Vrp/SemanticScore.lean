import Annex.Foundation.Cosine
import Annex.Vrp.Symmetry

namespace Annex.Vrp

/-! The semantic score in exact arithmetic: the cosine between the means of the two lists of
principles, over the words of both. -/

noncomputable section

open Classical in
/-- The real numbers. -/
instance : Scalar ℝ where
  zero := 0
  one := 1
  add left right := left + right
  mul left right := left * right
  div left right := left / right
  sqrt := Real.sqrt
  ofNat number := number
  eq left right := decide (left = right)
  lt left right := decide (left < right)
  le left right := decide (left ≤ right)

@[simp] theorem scalar_zero : (Scalar.zero : ℝ) = 0 := rfl

@[simp] theorem scalar_one : (Scalar.one : ℝ) = 1 := rfl

@[simp] theorem scalar_add (left right : ℝ) : Scalar.add left right = left + right := rfl

@[simp] theorem scalar_mul (left right : ℝ) : Scalar.mul left right = left * right := rfl

@[simp] theorem scalar_div (left right : ℝ) : Scalar.div left right = left / right := rfl

@[simp] theorem scalar_ofNat (number : Nat) : (Scalar.ofNat number : ℝ) = number := rfl

@[simp] theorem scalar_eq (left right : ℝ) : Scalar.eq left right = true ↔ left = right :=
  decide_eq_true_iff

@[simp] theorem scalar_lt (left right : ℝ) : Scalar.lt left right = true ↔ left < right :=
  decide_eq_true_iff

variable (environment : Environment)

/-- How often a text has a word. -/
def wordCount (text word : String) : ℝ :=
  ((tokenize environment text).filter (· = word)).length

/-- The part of a word in a text, by the length of the text's counts. -/
def wordWeight (vocab : List String) (text word : String) : ℝ :=
  wordCount environment text word / magnitude vocab.toFinset (wordCount environment text)

/-- The part of a word in a list of principles. -/
def meanWeight (vocab principles : List String) (word : String) : ℝ :=
  (principles.map fun text => wordWeight environment vocab text word).sum / principles.length

end

section Vectors

variable {environment : Environment} {vocab : List String}

theorem sum_eq (values : List ℝ) : sum values = values.sum :=
  List.sum_eq_foldl.symm

theorem foldl_one (words : List String) (count : ℝ) :
    words.foldl (fun count _ => Scalar.add count Scalar.one) count = count + words.length := by
  induction words generalizing count with
  | nil => simp
  | cons word words induction =>
      rw [List.foldl_cons, induction, List.length_cons, scalar_add, scalar_one]
      push_cast
      ring

theorem sqrt_sum (nodup : vocab.Nodup) (vector : String → ℝ) :
    Scalar.sqrt (sum ((vocab.map vector).map fun value => Scalar.mul value value)) =
      magnitude vocab.toFinset vector := by
  rw [sum_eq, List.map_map, magnitude, List.sum_toFinset _ nodup]
  rfl

theorem embed_eq (nodup : vocab.Nodup) (some : vocab ≠ []) (text : String) :
    embed environment vocab text = .ok (vocab.map (wordWeight environment vocab text)) := by
  have counts : (vocab.map fun word => ((tokenize environment text).filter (· = word)).foldl
      (fun count _ => Scalar.add count Scalar.one) (Scalar.zero : ℝ)) =
      vocab.map (wordCount environment text) := by
    apply List.map_congr_left
    intro word _
    rw [foldl_one]
    exact zero_add _
  unfold embed
  rw [if_neg (by simpa using some)]
  simp only [counts, sqrt_sum nodup]
  by_cases positive : 0 < magnitude vocab.toFinset (wordCount environment text)
  · rw [if_pos (by simpa using positive), List.map_map]
    rfl
  · rw [if_neg (by simpa using positive)]
    congr 1
    apply List.map_congr_left
    intro word member
    -- Without words the text has the counts themselves, all of them zero.
    have zero : wordCount environment text word = 0 := by
      by_contra nonzero
      exact magnitude_ne_zero (List.mem_toFinset.mpr member) nonzero
        (le_antisymm (not_lt.mp positive) magnitude_nonneg)
    rw [wordWeight, zero, zero_div]

theorem sumEmbeddings_eq (nodup : vocab.Nodup) (some : vocab ≠ []) (principles : List String)
    (total : String → ℝ) (count : Nat) :
    sumEmbeddings (embed environment vocab) principles (vocab.map total) count =
      .ok (vocab.map fun word => total word +
          (principles.map fun text => wordWeight environment vocab text word).sum,
        count + principles.length) := by
  induction principles generalizing total count with
  | nil => simp [sumEmbeddings]
  | cons text principles induction =>
      have notEmpty : (vocab.map total).isEmpty = false := by simpa using some
      have sameLength : (vocab.map total).length =
          (vocab.map (wordWeight environment vocab text)).length := by
        rw [List.length_map, List.length_map]
      rw [sumEmbeddings, embed_eq nodup some text]
      dsimp only
      rw [notEmpty, if_neg Bool.false_ne_true, if_neg (not_not_intro sameLength),
        List.zipWith_map, List.zipWith_self, induction]
      congr 2
      · apply List.map_congr_left
        intro word _
        rw [List.map_cons, List.sum_cons, scalar_add, add_assoc]
      · rw [List.length_cons]
        omega

theorem computeCentroid_eq (nodup : vocab.Nodup) (some : vocab ≠ []) {principles : List String}
    (someText : principles ≠ []) :
    computeCentroid (embed environment vocab) principles =
      .ok (vocab.map (meanWeight environment vocab principles)) := by
  cases principles with
  | nil => exact absurd rfl someText
  | cons text principles =>
      unfold computeCentroid
      rw [sumEmbeddings, embed_eq nodup some text]
      dsimp only
      rw [List.isEmpty_nil, if_pos rfl, sumEmbeddings_eq nodup some]
      dsimp only
      rw [if_neg (by omega), List.map_map]
      congr 1
      apply List.map_congr_left
      intro word _
      simp only [Function.comp_apply, scalar_div, scalar_ofNat, meanWeight, List.map_cons,
        List.sum_cons, List.length_cons]
      rw [Nat.zero_add, Nat.add_comm]

theorem cosineSimilarity_eq (nodup : vocab.Nodup) (some : vocab ≠ []) (left right : String → ℝ) :
    cosineSimilarity (vocab.map left) (vocab.map right) =
      cosine vocab.toFinset left right := by
  have shape : ¬((vocab.map left).length ≠ (vocab.map right).length ∨
      (vocab.map left).isEmpty = true) := by
    simpa using some
  unfold cosineSimilarity cosine
  rw [if_neg shape]
  dsimp only
  rw [sqrt_sum nodup, sqrt_sum nodup, List.zipWith_map, List.zipWith_self, sum_eq]
  simp only [Bool.or_eq_true, scalar_eq, scalar_zero, scalar_div, scalar_mul]
  rw [List.sum_toFinset _ nodup]

theorem buildVocab_nodup (environment : Environment) (texts : List String) :
    (buildVocab environment texts).Nodup :=
  (List.perm_insertionSort _ _).nodup_iff.mpr (List.nodup_dedup _)

theorem mem_buildVocab {texts : List String} {word : String} :
    word ∈ buildVocab environment texts ↔ ∃ text ∈ texts, word ∈ tokenize environment text := by
  rw [buildVocab, List.mem_insertionSort, List.mem_dedup, List.mem_flatMap]

end Vectors

section Score

variable {environment : Environment} {localPrinciples remotePrinciples : List String}

/-- The score is the cosine between the two means. -/
theorem semanticScore_eq (someLocal : localPrinciples ≠ []) (someRemote : remotePrinciples ≠ [])
    (some : buildVocab environment (localPrinciples ++ remotePrinciples) ≠ []) :
    semanticScore environment localPrinciples remotePrinciples =
      .ok (cosine (buildVocab environment (localPrinciples ++ remotePrinciples)).toFinset
        (meanWeight environment (buildVocab environment (localPrinciples ++ remotePrinciples))
          localPrinciples)
        (meanWeight environment (buildVocab environment (localPrinciples ++ remotePrinciples))
          remotePrinciples)) := by
  have nodup := buildVocab_nodup environment (localPrinciples ++ remotePrinciples)
  unfold semanticScore
  generalize buildVocab environment (localPrinciples ++ remotePrinciples) = vocab at some nodup
  unfold calculateSemanticAlignment
  dsimp only
  rw [if_neg (by simp [someLocal]), if_neg (by simp [someLocal, someRemote]),
    computeCentroid_eq nodup some someLocal, computeCentroid_eq nodup some someRemote]
  dsimp only
  rw [if_neg (by simp [some]), cosineSimilarity_eq nodup some]

theorem wordWeight_nonneg (vocab : List String) (text word : String) :
    0 ≤ wordWeight environment vocab text word :=
  div_nonneg (Nat.cast_nonneg _) magnitude_nonneg

theorem meanWeight_nonneg (vocab principles : List String) (word : String) :
    0 ≤ meanWeight environment vocab principles word := by
  apply div_nonneg
  · apply List.sum_nonneg
    intro weight member
    rcases List.mem_map.mp member with ⟨text, _, rfl⟩
    exact wordWeight_nonneg vocab text word
  · exact Nat.cast_nonneg _

/-- The mean does not depend on the order of the principles. -/
theorem meanWeight_perm {vocab principles others : List String} (same : principles.Perm others) :
    meanWeight environment vocab principles = meanWeight environment vocab others := by
  funext word
  rw [meanWeight, meanWeight, same.length_eq, (same.map _).sum_eq]

/-- A word of a principle weighs in the mean. -/
theorem meanWeight_ne_zero {vocab principles : List String} {text word : String}
    (member : text ∈ principles) (known : word ∈ vocab)
    (written : word ∈ tokenize environment text) :
    meanWeight environment vocab principles word ≠ 0 := by
  have counted : 0 < wordCount environment text word := by
    apply Nat.cast_pos.mpr
    apply List.length_pos_of_mem
    rw [List.mem_filter]
    exact ⟨written, decide_eq_true rfl⟩
  have length : magnitude vocab.toFinset (wordCount environment text) ≠ 0 :=
    magnitude_ne_zero (List.mem_toFinset.mpr known) counted.ne'
  have weight : 0 < wordWeight environment vocab text word :=
    div_pos counted (lt_of_le_of_ne magnitude_nonneg length.symm)
  have total : wordWeight environment vocab text word ≤
      (principles.map fun text => wordWeight environment vocab text word).sum := by
    apply List.single_le_sum
    · intro other otherMember
      rcases List.mem_map.mp otherMember with ⟨principle, _, rfl⟩
      exact wordWeight_nonneg vocab principle word
    · exact List.mem_map_of_mem member
  have some : 0 < principles.length := List.length_pos_of_mem member
  exact (div_pos (lt_of_lt_of_le weight total) (Nat.cast_pos.mpr some)).ne'

/-- With a word in any of the principles there is a vocabulary. -/
theorem buildVocab_ne_nil {texts : List String}
    (written : ∃ text ∈ texts, tokenize environment text ≠ []) :
    buildVocab environment texts ≠ [] := by
  rcases written with ⟨text, member, words⟩
  rcases List.exists_mem_of_ne_nil _ words with ⟨word, found⟩
  exact List.ne_nil_of_mem (mem_buildVocab.mpr ⟨text, member, found⟩)

theorem semanticScore_perm {localOther remoteOther : List String}
    (someLocal : localPrinciples ≠ []) (someRemote : remotePrinciples ≠ [])
    (some : buildVocab environment (localPrinciples ++ remotePrinciples) ≠ [])
    (sameLocal : localOther.Perm localPrinciples) (sameRemote : remoteOther.Perm remotePrinciples) :
    (semanticScore environment localOther remoteOther : Except String ℝ) =
      semanticScore environment localPrinciples remotePrinciples := by
  have someLocalOther : localOther ≠ [] := fun none => someLocal (none ▸ sameLocal).nil_eq.symm
  have someRemoteOther : remoteOther ≠ [] := fun none => someRemote (none ▸ sameRemote).nil_eq.symm
  have vocab := @buildVocab_of_perm environment _ _ (sameLocal.append sameRemote)
  rw [semanticScore_eq someLocalOther someRemoteOther (by rw [vocab]; exact some),
    semanticScore_eq someLocal someRemote some, vocab, meanWeight_perm sameLocal,
    meanWeight_perm sameRemote]

/-- Lists of the same principles that have a word are as similar as can be. -/
theorem cosine_meanWeight_self (same : localPrinciples.Perm remotePrinciples)
    (written : ∃ text ∈ localPrinciples ++ remotePrinciples, tokenize environment text ≠ []) :
    cosine (buildVocab environment (localPrinciples ++ remotePrinciples)).toFinset
      (meanWeight environment (buildVocab environment (localPrinciples ++ remotePrinciples))
        localPrinciples)
      (meanWeight environment (buildVocab environment (localPrinciples ++ remotePrinciples))
        remotePrinciples) = 1 := by
  rcases written with ⟨text, member, words⟩
  rcases List.exists_mem_of_ne_nil _ words with ⟨word, found⟩
  have known : word ∈ buildVocab environment (localPrinciples ++ remotePrinciples) :=
    mem_buildVocab.mpr ⟨text, member, found⟩
  have remote : text ∈ remotePrinciples := by
    rcases List.mem_append.mp member with isLocal | isRemote
    · exact same.subset isLocal
    · exact isRemote
  rw [meanWeight_perm same]
  exact cosine_self (List.mem_toFinset.mpr known) (meanWeight_ne_zero remote known found)

/-- In exact arithmetic the score of two lists of principles, one of which has a word, lies
between 0 and 1, is the same the other way round and for the lists in any order, and is 1 for
lists of the same principles. -/
theorem semanticScore_similarity (environment : Environment)
    (localPrinciples remotePrinciples : List String) (someLocal : localPrinciples ≠ [])
    (someRemote : remotePrinciples ≠ [])
    (written : ∃ text ∈ localPrinciples ++ remotePrinciples, tokenize environment text ≠ []) :
    ∃ score : ℝ, semanticScore environment localPrinciples remotePrinciples = .ok score ∧
      (0 ≤ score ∧ score ≤ 1) ∧
      semanticScore environment remotePrinciples localPrinciples = .ok score ∧
      (∀ localOther remoteOther, localOther.Perm localPrinciples →
        remoteOther.Perm remotePrinciples →
        semanticScore environment localOther remoteOther = .ok score) ∧
      (localPrinciples.Perm remotePrinciples → score = 1) := by
  have some := buildVocab_ne_nil written
  have score := semanticScore_eq someLocal someRemote some
  refine ⟨_, score, ?_⟩
  constructor
  · constructor
    · apply cosine_nonneg
      · intro word _
        exact meanWeight_nonneg _ _ word
      · intro word _
        exact meanWeight_nonneg _ _ word
    · exact cosine_le_one
  · constructor
    · exact (semanticScore_comm mul_comm _ _ _).mp score
    · constructor
      · intro localOther remoteOther sameLocal sameRemote
        rw [semanticScore_perm someLocal someRemote some sameLocal sameRemote]
        exact score
      · intro same
        exact cosine_meanWeight_self same written

/-- Two principles in either order. -/
theorem semanticScore_similarity_swapped :
    semanticScore (Environment.sample id) ["Be honest", "no harm"] ["no harm", "Be honest"] =
      .ok (1 : ℝ) := by
  have same : ["Be honest", "no harm"].Perm ["no harm", "Be honest"] :=
    List.Perm.swap "no harm" "Be honest" []
  have written : ∃ text ∈ ["Be honest", "no harm"] ++ ["no harm", "Be honest"],
      tokenize (Environment.sample id) text ≠ [] := by
    use "no harm"
    decide +kernel
  rcases semanticScore_similarity (Environment.sample id) ["Be honest", "no harm"]
    ["no harm", "Be honest"] (List.cons_ne_nil _ _) (List.cons_ne_nil _ _) written with
    ⟨score, found, _, _, _, isOne⟩
  rw [found, isOne same]

end Score

end Annex.Vrp

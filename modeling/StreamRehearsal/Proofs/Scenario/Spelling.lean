import StreamRehearsal.Proofs.Scenario.Composition

/-! # Spelling operations

Operations are written as tokens with dashes between them, and reading the string gives them back.
A status code without three digits is the only thing that does not survive.

* `Token.ofChars_tokenChars` is the way there and back for one operation.  `Operation.asRead` is
  what comes of it: the same operation, or the default failure in place of one with such a code.
* `Token.operations_spell` is the same for a list, with or without a slash in front.
* `Token.spelling_inverse_reading` adds what follows for scenario strings.  Whatever is read is
  never changed by being written and read once more, so the normal form of a string means what the
  string means, and is its own normal form. -/

namespace StreamRehearsal

namespace Operation

/-- The operation that is read where this one was written. -/
def asRead : Operation → Operation
  | startup delay => startup delay
  | playback duration => playback duration
  | rebuffer delay => rebuffer delay
  | failure code => failure (if 100 ≤ code.toNat ∧ code.toNat ≤ 999 then code else 500)

/-! ### Magnitudes -/

theorem magnitude_le_maxCount (op : Operation) : op.magnitude ≤ maxCount := by
  cases op with
  | startup delay => exact toNat_le_maxCount delay
  | playback duration => exact toNat_le_maxCount duration
  | rebuffer delay => exact toNat_le_maxCount delay
  | failure code =>
      have hcode : code.toNat < 65536 := code.toNat_lt
      show code.toNat ≤ maxCount
      unfold maxCount
      omega

theorem toNat_of_statusCode?_eq_some {magnitude : UInt64} {code : UInt16}
    (h : statusCode? magnitude = some code) : 100 ≤ code.toNat ∧ code.toNat ≤ 999 := by
  obtain ⟨e, hrange⟩ := statusCode?_eq_some_iff.1 h
  rwa [e]

theorem statusCode?_ofNat_toNat (code : UInt16) :
    statusCode? (UInt64.ofNat code.toNat) =
      if 100 ≤ code.toNat ∧ code.toNat ≤ 999 then some code else none := by
  have hnat : (UInt64.ofNat code.toNat).toNat = code.toNat :=
    toNat_ofNat_of_le (magnitude_le_maxCount (failure code))
  split
  next hrange => exact statusCode?_eq_some_iff.2 ⟨hnat.symm, by rwa [hnat]⟩
  next hrange => rw [statusCode?, hnat, if_neg hrange]

/-- An operation is the one of its kind and its magnitude, up to its code. -/
theorem ofMagnitude_magnitude (op : Operation) :
    ofMagnitude op.kind (some (UInt64.ofNat op.magnitude)) = op.asRead := by
  cases op with
  | startup delay => exact congrArg startup (UInt64.ofNat_toNat)
  | playback duration => exact congrArg playback (UInt64.ofNat_toNat)
  | rebuffer delay => exact congrArg rebuffer (UInt64.ofNat_toNat)
  | failure code =>
      show failure ((statusCode? (UInt64.ofNat code.toNat)).getD 500) = failure _
      rw [statusCode?_ofNat_toNat]
      split
      · rfl
      · rfl

/-- What is read from a token does not change when it is written and read again. -/
theorem asRead_ofMagnitude (kind : Kind) (magnitude : Option UInt64) :
    (ofMagnitude kind magnitude).asRead = ofMagnitude kind magnitude := by
  cases kind with
  | startup => rfl
  | playback => rfl
  | rebuffer => rfl
  | failure =>
      cases hcode : magnitude.bind statusCode? with
      | none =>
          simp only [ofMagnitude, hcode]
          rfl
      | some code =>
          obtain ⟨m, -, hm⟩ := Option.bind_eq_some_iff.1 hcode
          have hrange := toNat_of_statusCode?_eq_some hm
          simp only [ofMagnitude, hcode, Option.getD_some, asRead, if_pos hrange]

/-! ### Characters of tokens -/

@[simp] theorem toList_token (op : Operation) : op.token.toList = op.tokenChars :=
  String.toList_ofList

theorem notMem_tokenChars {c : Char} (hletter : c ∉ ['s', 'p', 'r', 'e'])
    (hdigit : c.isDigit = false) (op : Operation) : c ∉ op.tokenChars := by
  intro hc
  rcases List.mem_cons.1 hc with e | hmem
  · exact Kind.letter_ne hletter op.kind e.symm
  · rw [Decimal.isDigit_of_mem_digits hmem] at hdigit
    exact Bool.noConfusion hdigit

end Operation

namespace Token

/-! ### One token -/

theorem magnitude?_digits {n : Nat} (h : n ≤ maxCount) :
    magnitude? (Decimal.digits n) = some (UInt64.ofNat n) := by
  have hn : (UInt64.ofNat n).toNat = n := toNat_ofNat_of_le h
  exact magnitude?_eq_some_iff.2 ⟨_, hn.symm ▸ Decimal.numeral_digits n, .inl rfl⟩

theorem ofChars_tokenChars (op : Operation) : ofChars op.tokenChars = operation op.asRead := by
  rw [Operation.tokenChars, ofChars_letter_cons, magnitude?_digits op.magnitude_le_maxCount,
    Operation.ofMagnitude_magnitude]

/-- Every token that stands for an operation stands for one of a kind and a magnitude. -/
theorem asRead_of_ofChars {cs : List Char} {op : Operation} (h : ofChars cs = operation op) :
    op.asRead = op := by
  obtain ⟨-, e⟩ | ⟨c, rest, -, -, e⟩ | ⟨kind, rest, -, e⟩ := ofChars_cases cs
  · exact absurd (e.symm.trans h) nofun
  · exact absurd (e.symm.trans h) nofun
  · obtain rfl := Token.operation.inj (e.symm.trans h)
    exact Operation.asRead_ofMagnitude kind _

/-! ### Scenario strings -/

theorem toList_spell (ops : List Operation) :
    (spell ops).toList = ['-'].intercalate (ops.map Operation.tokenChars) := by
  have htoken : String.toList ∘ Operation.token = Operation.tokenChars :=
    funext Operation.toList_token
  rw [spell, String.toList_intercalate, List.map_map, htoken]
  rfl

/-- The first character is the letter of a kind, or there is none. -/
theorem head?_spell_ne (ops : List Operation) : (spell ops).toList.head? ≠ some '/' := by
  have hletter := Operation.Kind.letter_ne (c := '/') (by decide)
  rw [toList_spell]
  cases ops with
  | nil => exact nofun
  | cons op rest =>
      cases rest with
      | nil => exact fun e => hletter op.kind (Option.some.inj e)
      | cons op' rest => exact fun e => hletter op.kind (Option.some.inj e)

theorem filterMap_splitOn_spell (ops : List Operation) :
    (((spell ops).toList.splitOn '-').map ofChars).filterMap operation? =
      ops.map Operation.asRead := by
  rw [toList_spell]
  by_cases hops : ops = []
  · subst hops
    rfl
  · have hdash : ∀ cs ∈ ops.map Operation.tokenChars, '-' ∉ cs := by
      intro cs hcs
      obtain ⟨op, -, rfl⟩ := List.mem_map.1 hcs
      exact Operation.notMem_tokenChars (by decide) (by decide) op
    have hread : operation? ∘ ofChars ∘ Operation.tokenChars = some ∘ Operation.asRead := by
      funext op
      simp [ofChars_tokenChars]
    rw [List.splitOn_intercalate '-' hdash (by simpa using hops), List.map_map,
      List.filterMap_map, hread, List.filterMap_eq_map]

theorem operations_spell (ops : List Operation) :
    operations (spell ops) = ops.map Operation.asRead := by
  rw [operations, all, allChars, Cut.dropLeading_eq_self (head?_spell_ne ops)]
  exact filterMap_splitOn_spell ops

theorem operations_slash_spell (ops : List Operation) :
    operations ("/" ++ spell ops) = ops.map Operation.asRead :=
  (operations_slash_append (head?_spell_ne ops)).trans (operations_spell ops)

/-- An operation that was read from a scenario string is read where it is written. -/
theorem asRead_of_mem_operations {path : String} {op : Operation} (h : op ∈ operations path) :
    op.asRead = op := by
  obtain ⟨token, htoken, hop⟩ := List.mem_filterMap.1 h
  obtain ⟨cs, -, rfl⟩ := List.mem_map.1 htoken
  cases hcs : ofChars cs with
  | operation op' =>
      rw [hcs] at hop
      obtain rfl := Option.some.inj hop
      exact asRead_of_ofChars hcs
  | empty => rw [hcs] at hop; exact absurd hop nofun
  | unknown letter => rw [hcs] at hop; exact absurd hop nofun

/-- Every code that was read from a scenario string has three digits. -/
theorem code_bounds_of_mem_operations {path : String} {code : UInt16}
    (h : .failure code ∈ operations path) : 100 ≤ code.toNat ∧ code.toNat ≤ 999 := by
  have hread := Operation.failure.inj (asRead_of_mem_operations h)
  split at hread
  next hrange => exact hrange
  next => exact hread ▸ by decide

theorem map_asRead_operations (path : String) :
    (operations path).map Operation.asRead = operations path :=
  (List.map_congr_left fun _ => asRead_of_mem_operations).trans (List.map_id _)

theorem operations_normalForm (path : String) : operations (normalForm path) = operations path :=
  (operations_spell _).trans (map_asRead_operations path)

/-- **Reading undoes spelling**, up to status codes without three digits, with or without a slash in
front.  So the normal form of a scenario string stands for the same operations, compiles to the same
scenario, and is its own normal form. -/
theorem spelling_inverse_reading (ops : List Operation) (path : String) :
    operations (spell ops) = ops.map Operation.asRead ∧
      operations ("/" ++ spell ops) = ops.map Operation.asRead ∧
      operations (normalForm path) = operations path ∧
      normalForm (normalForm path) = normalForm path ∧
      Scenario.compile (normalForm path) = Scenario.compile path := by
  have hnormal := operations_normalForm path
  refine ⟨operations_spell ops, operations_slash_spell ops, hnormal, ?_, ?_⟩
  · rw [normalForm, hnormal]
    rfl
  · rw [Scenario.compile, hnormal]
    rfl

example : normalForm "/x9-s02--r-e42-" = "s2-r30-e500" := by
  decide

end Token

end StreamRehearsal

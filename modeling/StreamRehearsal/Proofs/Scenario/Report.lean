import Mathlib.Data.List.Forall2
import StreamRehearsal.Proofs.Json.RoundTrip
import StreamRehearsal.Proofs.Scenario.Spelling
import StreamRehearsal.Proofs.Text.Words
import StreamRehearsal.Scenario.Report

/-! # Reports are faithful

A report can be taken apart again, and then it gives back what the scenario string was read as.

* `Report.operation?` reads an operation off the first word of a line, and `Report.action?` an action
  off all of its words.  A line about a token that was ignored gives no operation.
* `Report.Shows token line` says what a line has to tell about a token that is not empty;
  `forall₂_shows` that there is one such line for each of these tokens, in their order.
* `Report.action?_actionLine` reads every action back from its line, with a delay or a code if and
  only if it has one.
* `Report.report_is_faithful` finds the sections of the report and puts these together. -/

namespace StreamRehearsal.Report

open Lines (words)

/-! ### Reading lines -/

/-- The texts between the dashes of a scenario string, in order, without the empty ones. -/
def tokens (path : String) : List (List Char) :=
  ((Cut.dropLeading '/' path.toList).splitOn '-').filter (· ≠ [])

/-- The operation whose written form is the first word of a line. -/
def operation? (line : String) : Option Operation :=
  (words line).head?.bind fun word => (Token.ofChars word.toList).operation?

/-- Whether a line is about an operation. -/
def isOperationLine (line : String) : Bool := (operation? line).isSome

/-- The line tells what became of the token: it starts with the written form of the operation that the
token stands for, from which that operation is read back, or it quotes the letter of no kind. -/
inductive Shows (token : List Char) : String → Prop where
  | operation {op : Operation} {line : String} (read : Token.ofChars token = .operation op)
      (word : (words line).head? = some op.token)
      (back : Token.ofChars op.token.toList = .operation op) : Shows token line
  | ignored {letter : Char} (read : Token.ofChars token = .unknown letter) :
      Shows token ("  (ignored token starting with " ++ Quoted.character letter ++ ")")

/-- The count in front of a mark. -/
def count? (mark word : String) : Option UInt64 :=
  (Decimal.marked? maxCount mark word).map UInt64.ofNat

/-- The status code that a word is. -/
def code? (word : String) : Option UInt16 :=
  (Decimal.marked? 65535 "" word).map UInt16.ofNat

/-- The action that a line is about. -/
def action? (line : String) : Option SegmentAction :=
  match words line with
  | ["segment", index] => do
      return ⟨← count? ":" index, none, none⟩
  | ["segment", index, "delay", delay] => do
      return ⟨← count? ":" index, some (← count? "s" delay), none⟩
  | ["segment", index, "error", code] => do
      return ⟨← count? ":" index, none, some (← code? code)⟩
  | ["segment", index, "delay", delay, "error", code] => do
      return ⟨← count? ":" index, some (← count? "s" delay), some (← code? code)⟩
  | _ => none

/-! ### Lines about tokens -/

theorem blank_notMem_token (op : Operation) : ' ' ∉ op.token.toList := by
  rw [Operation.toList_token]
  exact Operation.notMem_tokenChars (by decide) (by decide) op

theorem token_ne_empty (op : Operation) : op.token ≠ "" := by
  rw [Ne, ← String.toList_eq_nil_iff, Operation.toList_token]
  exact List.cons_ne_nil _ _

theorem head?_words_operationLine (op : Operation) :
    (words ("  " ++ Lines.pad 8 op.token ++ " " ++ summary op)).head? = some op.token := by
  have hwords : words ("  " ++ Lines.pad 8 op.token ++ " " ++ summary op) =
      op.token :: words (summary op) := by
    rw [Lines.words_append, Lines.words_indent, Lines.words_pad,
      Lines.words_eq_singleton (token_ne_empty op) (blank_notMem_token op)]
    rfl
  rw [hwords, List.head?_cons]

theorem operation?_ignoredLine (letter : Char) :
    operation? ("  (ignored token starting with " ++ Quoted.character letter ++ ")") = none := by
  have hwords : words ("  (ignored token starting with " ++ Quoted.character letter ++ ")") =
      "(ignored" :: words ("token starting with " ++ Quoted.character letter ++ ")") := by
    have hline : "  (ignored token starting with " ++ Quoted.character letter ++ ")" =
        "  " ++ ("(ignored" ++ " " ++ ("token starting with " ++ Quoted.character letter ++ ")")) := by
      simp [← String.toList_inj]
    rw [hline, Lines.words_indent, Lines.words_cons (by decide) (by decide)]
  rw [operation?, hwords]
  rfl

/-- Every token that is not empty has a line, and the line shows it. -/
theorem exists_tokenLine {token : List Char} (h : token ≠ []) :
    ∃ line, tokenLine? (Token.ofChars token) = some line ∧ Shows token line := by
  obtain ⟨hnil, -⟩ | ⟨letter, rest, -, -, e⟩ | ⟨kind, rest, -, e⟩ := Token.ofChars_cases token
  · exact absurd hnil h
  · exact ⟨_, by rw [e]; rfl, .ignored e⟩
  · -- an operation that was read does not change when it is written and read again
    refine ⟨_, by rw [e]; rfl, .operation e (head?_words_operationLine _) ?_⟩
    rw [Operation.toList_token, Token.ofChars_tokenChars, Token.asRead_of_ofChars e]

/-- One line for each token that is not empty, in the order of the tokens. -/
theorem forall₂_shows (tokens : List (List Char)) :
    List.Forall₂ Shows (tokens.filter (· ≠ []))
      ((tokens.map Token.ofChars).filterMap tokenLine?) := by
  induction tokens with
  | nil => exact .nil
  | cons token rest ih =>
      by_cases htoken : token = []
      · subst htoken
        exact ih
      · obtain ⟨line, hline, hshows⟩ := exists_tokenLine htoken
        rw [List.filter_cons_of_pos (by simpa using htoken), List.map_cons,
          List.filterMap_cons_some hline]
        exact .cons hshows ih

/-- What is read off the line about a token is what the token stands for. -/
theorem bind_tokenLine? {path : String} {token : Token} (h : token ∈ Token.all path) :
    (tokenLine? token).bind operation? = token.operation? := by
  cases token with
  | empty => rfl
  | unknown letter => rw [tokenLine?, Option.bind_some, operation?_ignoredLine, Token.operation?]
  | operation op =>
      have hread : op.asRead = op :=
        Token.asRead_of_mem_operations (List.mem_filterMap.2 ⟨_, h, rfl⟩)
      rw [tokenLine?, Option.bind_some, operation?, head?_words_operationLine, Option.bind_some,
        Operation.toList_token, Token.ofChars_tokenChars, hread]

theorem filterMap_operation?_tokenLines (path : String) :
    ((Token.all path).filterMap tokenLine?).filterMap operation? = Token.operations path := by
  rw [List.filterMap_filterMap]
  exact List.filterMap_congr fun _ => bind_tokenLine?

/-! ### Lines about actions -/

theorem count?_text {mark : String} (h : ∀ c ∈ mark.toList.head?, c.isDigit = false) (n : UInt64) :
    count? mark (Decimal.text n.toNat ++ mark) = some n := by
  rw [count?, Decimal.marked?_append (toNat_le_maxCount n) h, Option.map_some, UInt64.ofNat_toNat]

theorem code?_text (code : UInt16) : code? (Decimal.text code.toNat) = some code := by
  have hcode : code.toNat ≤ 65535 := Nat.le_of_lt_succ code.toNat_lt
  have hread : Decimal.marked? 65535 "" (Decimal.text code.toNat ++ "") = some code.toNat :=
    Decimal.marked?_append hcode nofun
  rw [String.append_empty] at hread
  rw [code?, hread, Option.map_some, UInt16.ofNat_toNat]

/-- The words about a delay. -/
def delayWords : Option UInt64 → List String
  | some delay => ["delay", Decimal.text delay.toNat ++ "s"]
  | none => []

/-- The words about a status code. -/
def codeWords : Option UInt16 → List String
  | some code => ["error", Decimal.text code.toNat]
  | none => []

/-- A label and a number with its mark are two words. -/
theorem words_label_text {label mark : String} (hne : label ≠ "") (hlabel : ' ' ∉ label.toList)
    (hmark : ' ' ∉ mark.toList) (n : Nat) :
    words (label ++ " " ++ (Decimal.text n ++ mark)) = [label, Decimal.text n ++ mark] := by
  have hdigits := Decimal.notMem_text (c := ' ') (by decide) n
  have hnumber : words (Decimal.text n ++ mark) = [Decimal.text n ++ mark] := by
    refine Lines.words_eq_singleton ?_ (by simp [hdigits, hmark])
    simp [Decimal.text, Decimal.digits_ne_nil]
  rw [Lines.words_cons hne hlabel, hnumber]

theorem words_append_delayPart (s : String) (delay : Option UInt64) :
    words (s ++ delayPart delay) = words s ++ delayWords delay := by
  cases delay with
  | none => simp [delayPart, delayWords]
  | some delay =>
      have hpart : s ++ delayPart (some delay) =
          s ++ " " ++ ("delay" ++ " " ++ (Decimal.text delay.toNat ++ "s")) := by
        simp [delayPart, ← String.toList_inj]
      rw [hpart, Lines.words_append, words_label_text (by decide) (by decide) (by decide),
        delayWords]

theorem words_append_codePart (s : String) (code : Option UInt16) :
    words (s ++ codePart code) = words s ++ codeWords code := by
  cases code with
  | none => simp [codePart, codeWords]
  | some code =>
      -- a code is a number without a mark
      have hpart : s ++ codePart (some code) =
          s ++ " " ++ ("error" ++ " " ++ (Decimal.text code.toNat ++ "")) := by
        simp [codePart, ← String.toList_inj]
      rw [hpart, Lines.words_append, words_label_text (by decide) (by decide) (by decide),
        String.append_empty, codeWords]

theorem words_actionLine (a : SegmentAction) :
    words (actionLine a) =
      "segment" :: (Decimal.text a.index.toNat ++ ":") :: (delayWords a.delay ++ codeWords a.code) := by
  have hfront : "  segment " ++ Decimal.text a.index.toNat ++ ":" =
      "  " ++ ("segment" ++ " " ++ (Decimal.text a.index.toNat ++ ":")) := by
    simp [← String.toList_inj]
  rw [actionLine, words_append_codePart, words_append_delayPart, hfront, Lines.words_indent,
    words_label_text (by decide) (by decide) (by decide)]
  simp

/-- The line about an action tells the action. -/
theorem action?_actionLine (a : SegmentAction) : action? (actionLine a) = some a := by
  have hindex : count? ":" (Decimal.text a.index.toNat ++ ":") = some a.index :=
    count?_text (by simp) a.index
  have hdelay : ∀ delay, count? "s" (Decimal.text delay.toNat ++ "s") = some delay :=
    count?_text (by simp)
  obtain ⟨index, delay, code⟩ := a
  -- one shape of words for each of the four sorts of action
  cases delay with
  | none =>
      cases code with
      | none => simp [action?, words_actionLine, delayWords, codeWords, hindex]
      | some code => simp [action?, words_actionLine, delayWords, codeWords, hindex, code?_text]
  | some delay =>
      cases code with
      | none => simp [action?, words_actionLine, delayWords, codeWords, hindex, hdelay]
      | some code =>
          simp [action?, words_actionLine, delayWords, codeWords, hindex, hdelay, code?_text]

example : action? "  segment 7: delay 10s error 503" = some ⟨7, some 10, some 503⟩ := by
  decide

/-! ### Sections -/

theorem lineFeed_notMem_summary (op : Operation) : '\n' ∉ (summary op).toList := by
  cases op with
  | startup delay => simp [summary]
  | playback duration => simp [summary]
  | rebuffer delay => simp [summary]
  | failure code => simp [summary]

theorem isFilled_tokenLine {token : Token} {line : String} (h : tokenLine? token = some line) :
    Lines.IsFilled line := by
  cases token with
  | empty => exact absurd h nofun
  | unknown letter =>
      obtain rfl := Option.some.inj h
      have hletter := Quoted.lineFeed_notMem_character letter
      constructor
      · simp
      · simp [hletter]
  | operation op =>
      obtain rfl := Option.some.inj h
      have htoken : '\n' ∉ op.tokenChars :=
        Operation.notMem_tokenChars (by decide) (by decide) op
      constructor
      · simp
      · simp [Lines.pad, htoken, lineFeed_notMem_summary]

theorem lineFeed_notMem_delayPart (delay : Option UInt64) : '\n' ∉ (delayPart delay).toList := by
  cases delay with
  | none => simp [delayPart]
  | some delay => simp [delayPart]

theorem lineFeed_notMem_codePart (code : Option UInt16) : '\n' ∉ (codePart code).toList := by
  cases code with
  | none => simp [codePart]
  | some code => simp [codePart]

theorem isFilled_actionLine (a : SegmentAction) : Lines.IsFilled (actionLine a) := by
  constructor
  · simp [actionLine]
  · simp [actionLine, lineFeed_notMem_delayPart, lineFeed_notMem_codePart]

theorem lengthLine_eq (s : Scenario) :
    lengthLine s = "Total length: " ++ Decimal.text s.length.toNat ++ "s (" ++
      Decimal.text s.segmentCount.toNat ++ " segments of 5s)" := by
  have hseconds : Decimal.text segmentSeconds = "5" := by decide
  unfold lengthLine
  rw [hseconds, String.append_assoc, String.append_assoc]
  rfl

theorem isFilled_lengthLine (s : Scenario) : Lines.IsFilled (lengthLine s) := by
  rw [lengthLine_eq]
  constructor
  · simp
  · simp

/-- The lines about the tokens, below the number of operations. -/
def operationsSection (path : String) : List String :=
  ("Operations: " ++ Decimal.text (Token.operations path).length) ::
    (Token.all path).filterMap tokenLine?

/-- The lines about the actions, below their number. -/
def timelineSection (t : Timeline) : List String :=
  ("Timeline: " ++ Decimal.text t.size ++ " actions") :: t.actions.map actionLine

theorem isFilled_operationsSection (path : String) :
    ∀ line ∈ operationsSection path, Lines.IsFilled line := by
  intro line hline
  rcases List.mem_cons.1 hline with rfl | hline
  · constructor
    · simp
    · simp
  · obtain ⟨token, -, htoken⟩ := List.mem_filterMap.1 hline
    exact isFilled_tokenLine htoken

theorem isFilled_timelineSection (t : Timeline) :
    ∀ line ∈ timelineSection t, Lines.IsFilled line := by
  intro line hline
  rcases List.mem_cons.1 hline with rfl | hline
  · constructor
    · simp
    · simp
  · obtain ⟨a, -, rfl⟩ := List.mem_map.1 hline
    exact isFilled_actionLine a

/-- What is below the first line of the report. -/
def body (path : String) : String :=
  let s := Scenario.compile path
  Lines.text (operationsSection path ++ "" :: (timelineSection s.timeline ++ "" :: [lengthLine s]))

theorem text_eq (path : String) : text path = "Scenario: " ++ path ++ "\n\n" ++ body path := by
  have hlines : lines path = ("Scenario: " ++ path) :: "" :: (operationsSection path ++ "" ::
      (timelineSection (Scenario.compile path).timeline ++ "" ::
        [lengthLine (Scenario.compile path)])) := by
    simp [lines, operationsSection, timelineSection, Scenario.compile, Scenario.ofOperations]
  rw [text, hlines, Lines.text_cons, Lines.text_cons]
  simp [body, ← String.toList_inj]

theorem sections_body (path : String) :
    Lines.sections (body path) =
      [operationsSection path, timelineSection (Scenario.compile path).timeline,
        [lengthLine (Scenario.compile path)], []] := by
  have hlength : ∀ line ∈ [lengthLine (Scenario.compile path)], Lines.IsFilled line := by
    intro line hline
    rw [List.mem_singleton.1 hline]
    exact isFilled_lengthLine _
  have htail : ∀ line ∈ [lengthLine (Scenario.compile path)], '\n' ∉ line.toList :=
    fun line hline => (hlength line hline).2
  have htimeline := isFilled_timelineSection (Scenario.compile path).timeline
  unfold body
  rw [Lines.sections_text_append (isFilled_operationsSection path)
      (Lines.lineFeed_notMem_append htimeline htail),
    Lines.sections_text_append htimeline htail, Lines.sections_text hlength]

/-! ### The whole report -/

/-- **The report is faithful.**  Below the scenario string, which is quoted as it is, every report has
three sections.  The first has one line for each token that is not empty, in order, and the operations
that are read off these lines are those of the scenario, as many as it announces.  From the lines of
the second, as many as it announces, the actions of the timeline are read back in their order.  The
third has the nominal length and the number of segments. -/
theorem report_is_faithful (path : String) :
    ∃ body shown listed,
      text path = "Scenario: " ++ path ++ "\n\n" ++ body ∧
      Lines.sections body =
        [("Operations: " ++ Decimal.text (shown.countP isOperationLine)) :: shown,
          ("Timeline: " ++ Decimal.text listed.length ++ " actions") :: listed,
          ["Total length: " ++ Decimal.text (Scenario.compile path).length.toNat ++ "s (" ++
            Decimal.text (Scenario.compile path).segmentCount.toNat ++ " segments of 5s)"],
          []] ∧
      List.Forall₂ Shows (tokens path) shown ∧
      shown.filterMap operation? = Token.operations path ∧
      listed.mapM action? = some (Timeline.ofOperations (Token.operations path)).actions := by
  have hread := filterMap_operation?_tokenLines path
  have hcount : ((Token.all path).filterMap tokenLine?).countP isOperationLine =
      (Token.operations path).length := by
    rw [← hread, List.length_filterMap_eq_countP]
    rfl
  refine ⟨body path, (Token.all path).filterMap tokenLine?,
    (Scenario.compile path).timeline.actions.map actionLine, text_eq path, ?_, forall₂_shows _,
    hread, Json.mapM_map_of_inverse action?_actionLine _⟩
  rw [sections_body, hcount, List.length_map, lengthLine_eq]
  rfl

end StreamRehearsal.Report

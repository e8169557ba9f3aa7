import PageRisk.Proofs.CommandLine.Agreement

set_option autoImplicit false

/-! # Serving, line by line

Whatever bytes are served, each line that is not blank is answered on one line, in the state that the lines
before it leave, up to the first line that is no text (`run_serve`). The lines are what stands between line
feeds (`inputLines_lessEmptyEnd`), so that a client that writes a request on each line reads the response to
it on the same line of the output. -/

namespace PageRisk.CommandLine

open Message

/-! ## Lines of an input -/

/-- What stands before a line feed, without a carriage return at its end. -/
def withoutReturn (piece : List UInt8) : List UInt8 :=
  if piece.getLast? = some 13 then piece.dropLast else piece

/-- The lines of an input whose pieces are cut at its line feeds: only the last piece has none behind it,
    and keeps its carriage return. -/
def linesOf (pieces : List (List UInt8)) : List (List UInt8) :=
  pieces.dropLast.map withoutReturn ++ [pieces.getLastD []]

/-- The lines of an input: what stands before each line feed, and what stands after the last one. Unlike
    `byteLines` it has an empty line behind a line feed at the end. -/
def inputLines (bytes : List UInt8) : List (List UInt8) :=
  linesOf (bytes.splitOn 10)

theorem withoutReturn_cons {b : UInt8} {piece : List UInt8} (h : b = 13 → piece ≠ []) :
    withoutReturn (b :: piece) = b :: withoutReturn piece := by
  cases piece with
  | nil =>
    have hb : b ≠ 13 := fun hb => h hb rfl
    simp [withoutReturn, hb]
  | cons c piece =>
    rw [withoutReturn, withoutReturn, List.getLast?_cons_cons]
    split_ifs <;> rfl

theorem exists_splitOn_eq (bytes : List UInt8) : ∃ piece pieces, bytes.splitOn 10 = piece :: pieces :=
  List.exists_cons_of_ne_nil (List.splitOn_ne_nil 10 bytes)

theorem splitOn_feed (rest : List UInt8) : (10 :: rest).splitOn 10 = [] :: rest.splitOn 10 := by
  rw [List.splitOn, List.splitOnP_cons_eq_if_modifyHead, if_pos (beq_self_eq_true _)]
  rfl

theorem splitOn_cons_of_ne {b : UInt8} (h : b ≠ 10) (rest : List UInt8) :
    (b :: rest).splitOn 10 = (rest.splitOn 10).modifyHead (b :: ·) := by
  rw [List.splitOn, List.splitOnP_cons_eq_if_modifyHead, if_neg (by simpa using h)]
  rfl

theorem inputLines_feed (rest : List UInt8) : inputLines (10 :: rest) = [] :: inputLines rest := by
  obtain ⟨piece, pieces, hrest⟩ := exists_splitOn_eq rest
  rw [inputLines, splitOn_feed, inputLines, hrest]
  rfl

theorem inputLines_return_feed (rest : List UInt8) :
    inputLines (13 :: 10 :: rest) = [] :: inputLines rest := by
  obtain ⟨piece, pieces, hrest⟩ := exists_splitOn_eq rest
  rw [inputLines, splitOn_cons_of_ne (by decide), splitOn_feed, inputLines, hrest]
  rfl

/-- A byte that ends no line stands at the start of the first of the `inputLines`. -/
theorem inputLines_cons {b : UInt8} (hfeed : b ≠ 10) {rest : List UInt8}
    (hreturn : b = 13 → ∀ after, rest ≠ 10 :: after) :
    inputLines (b :: rest) = (inputLines rest).modifyHead (b :: ·) := by
  obtain ⟨piece, pieces, hrest⟩ := exists_splitOn_eq rest
  rw [inputLines, splitOn_cons_of_ne hfeed, inputLines, hrest, List.modifyHead_cons]
  cases pieces with
  | nil => rfl
  | cons next pieces =>
    have hpiece : b = 13 → piece ≠ [] := by
      rintro hb rfl
      cases rest with
      | nil => exact absurd hrest (by simp)
      | cons c rest =>
        by_cases hc : c = 10
        · exact hreturn hb rest (by rw [hc])
        · obtain ⟨first, others, hothers⟩ := exists_splitOn_eq rest
          rw [splitOn_cons_of_ne hc, hothers, List.modifyHead_cons] at hrest
          exact absurd (List.cons.inj hrest).1 (List.cons_ne_nil _ _)
    change withoutReturn (b :: piece) :: linesOf (next :: pieces) = _
    rw [withoutReturn_cons hpiece]
    rfl

/-- Whether `read` is all of `lines`, less an empty one at the end. -/
def LessEmptyEnd (lines read : List (List UInt8)) : Prop :=
  lines = read ++ [[]] ∨ lines = read ∧ read ≠ []

theorem LessEmptyEnd.cons {lines read : List (List UInt8)} (h : LessEmptyEnd lines read)
    (line : List UInt8) : LessEmptyEnd (line :: lines) (line :: read) := by
  rcases h with h | ⟨h, -⟩
  · left
    rw [h, List.cons_append]
  · right
    exact ⟨by rw [h], List.cons_ne_nil _ _⟩

/-- `byteLines` gives the `inputLines`, less an empty one after the last line feed. -/
theorem inputLines_lessEmptyEnd (bytes : List UInt8) :
    LessEmptyEnd (inputLines bytes) (byteLines bytes) := by
  fun_induction byteLines bytes with
  | case1 => exact .inl rfl
  | case2 rest ih =>
    rw [inputLines_return_feed]
    exact ih.cons []
  | case3 b rest hcut hfeed ih =>
    obtain rfl : b = 10 := by simpa using hfeed
    rw [inputLines_feed]
    exact ih.cons []
  | case4 b rest hcut hfeed hnone ih =>
    rw [inputLines_cons (by simpa using hfeed) fun hb after hafter => hcut after hb hafter]
    rcases ih with ih | ⟨-, hsome⟩
    · right
      exact ⟨by rw [ih, hnone]; rfl, List.cons_ne_nil _ _⟩
    · exact absurd hnone hsome
  | case5 b rest hcut hfeed line lines hlines ih =>
    rw [inputLines_cons (by simpa using hfeed) fun hb after hafter => hcut after hb hafter]
    rcases ih with ih | ⟨ih, -⟩
    · left
      rw [ih, hlines]
      rfl
    · right
      exact ⟨by rw [ih, hlines]; rfl, List.cons_ne_nil _ _⟩

/-! ## Lines that are answered -/

/-- The lines of an input as texts; `none` for one that is no text. -/
def inputTexts (input : ByteArray) : List (Option String) :=
  (inputLines input.toList).map fun line => String.fromUTF8? ⟨line.toArray⟩

/-- The lines that are answered: those before the first `none`, without the blank ones. -/
def answeredLines (texts : List (Option String)) : List String :=
  ((texts.takeWhile Option.isSome).filterMap id).filter fun line => !Text.allBlank line.toList

theorem answeredLines_append_empty (texts : List (Option String)) :
    answeredLines (texts ++ [some ""]) = answeredLines texts := by
  induction texts with
  | nil => rfl
  | cons text rest ih =>
    cases text with
    | none => rfl
    | some line =>
      simp only [answeredLines, List.cons_append, List.takeWhile_cons, Option.isSome_some, if_true,
        List.filterMap_cons, id_eq, List.filter_cons] at ih ⊢
      rw [ih]

theorem inputTexts_eq (input : ByteArray) :
    inputTexts input = textLines input ++ [some ""] ∨ inputTexts input = textLines input := by
  have hempty : String.fromUTF8? ⟨([] : List UInt8).toArray⟩ = some "" := fromUTF8?_encoded ""
  rcases inputLines_lessEmptyEnd input.toList with h | ⟨h, -⟩
  · left
    rw [inputTexts, h, List.map_append, List.map_singleton, hempty, textLines]
  · right
    rw [inputTexts, h, textLines]

theorem answeredLines_inputTexts (input : ByteArray) :
    answeredLines (inputTexts input) = answeredLines (textLines input) := by
  rcases inputTexts_eq input with h | h
  · rw [h, answeredLines_append_empty]
  · rw [h]

theorem all_inputTexts (input : ByteArray) :
    (inputTexts input).all Option.isSome = (textLines input).all Option.isSome := by
  rcases inputTexts_eq input with h | h
  · simp [h]
  · rw [h]

/-- `serveLines` answers the `answeredLines` one after the other. -/
theorem serveLines_eq (scoring : ScoringConfig) (texts : List (Option String)) :
    serveLines scoring texts
      = ((answeredLines texts).mapM (answerLine scoring)).andThen fun answers =>
          .done (answers, texts.all Option.isSome) := by
  induction texts with
  | nil => rfl
  | cons text rest ih =>
    cases text with
    | none => rfl
    | some line =>
      rw [serveLines, ih, serveLine]
      by_cases hblank : Text.allBlank line.toList = true
      · have hlines : answeredLines (some line :: rest) = answeredLines rest := by
          simp [answeredLines, hblank]
        rw [if_pos hblank, hlines, Program.done_andThen, Program.andThen_assoc]
        rfl
      · have hlines : answeredLines (some line :: rest) = line :: answeredLines rest := by
          simp [answeredLines, hblank]
        rw [if_neg hblank, hlines, List.mapM_cons, Program.bind_eq]
        simp only [Program.bind_eq, Program.andThen_assoc, Program.done_andThen, Program.pure_eq]
        rfl

/-- The output of a run of `serve`: what was answered, and an error where the input is not `complete`, as
    one of its lines is no text. -/
def servedOutput (complete : Bool) (answers : List String) : Output :=
  if complete then ⟨0, Report.lines answers, ""⟩
  else ⟨2, Report.lines answers, "Error: IO error: stream did not contain valid UTF-8\n"⟩

/-- `serve` answers the `answeredLines` of its input, and ends with an error where a line is no text. -/
theorem serve_eq (input : ByteArray) (scoring : ScoringConfig) :
    (serve input scoring).run
      = ((answeredLines (inputTexts input)).mapM (answerLine scoring)).andThen fun answers =>
          .done (.ok (servedOutput ((inputTexts input).all Option.isSome) answers)) := by
  have hlift : (serve input scoring).run
      = ((serveLines scoring (textLines input)).andThen fun served =>
          .done (if served.2 then ⟨0, Report.lines served.1, ""⟩
            else .failed (.file .notText) (Report.lines served.1))).andThen fun output =>
          .done (.ok output) := rfl
  rw [hlift, serveLines_eq, answeredLines_inputTexts, all_inputTexts, Program.andThen_assoc,
    Program.andThen_assoc]
  cases (textLines input).all Option.isSome <;> rfl

/-! ## Texts of responses -/

/-- The names of the members of a response: a marker, a score with its tags, or an error. -/
def responseKeys : List (List String) :=
  [["result"], ["score", "reasonTags"], ["error"]]

/-- Whether a text is a response on one line: an object with the members of one of `responseKeys` and no
    others. -/
structure IsResponse (text : String) : Prop where
  unbroken : Unbroken text.toList
  object : ∃ members, Json.readDocument text = .ok (.object members)
    ∧ members.map Prod.fst ∈ responseKeys

theorem isResponse_compactText (response : Response) : IsResponse response.toJson.compactText where
  unbroken := by
    rw [Json.compactText, String.toList_ofList]
    exact Json.unbroken_compact _
  object := by
    have hread : Json.readDocument response.toJson.compactText = .ok response.toJson.reread :=
      Json.readDocument_text Json.compact_prints (fits_toJson response) 0
    rw [hread]
    cases response with
    | marker result => exact ⟨_, rfl, by simp [Json.rereadMembers, responseKeys]⟩
    | scored a => exact ⟨_, rfl, by simp [Json.rereadMembers, responseKeys]⟩
    | error text => exact ⟨_, rfl, by simp [Json.rereadMembers, responseKeys]⟩

/-- `answerLine` gives an `IsResponse`, whatever is on the line and however the services answer. -/
theorem isResponse_answerLine {σ : Type} (answer : (op : services.Op) → StateM σ (services.Answer op))
    (scoring : ScoringConfig) (line : String) (x : σ) :
    IsResponse ((answerLine scoring line).runWith answer x).1 := by
  rw [answerLine, Program.runWith_andThen_apply]
  exact isResponse_compactText _

/-! ## Serving an input -/

/-- Whether lines are answered in step, with a store in use on a machine: as many as there are, and each as
    `answerLine` answers it in the state that the lines before it leave. -/
structure InStep (o : Outside) (config : Config) (store : OpenStore) (m : MachineState)
    (lines answers : List String) : Prop where
  length : answers.length = lines.length
  answer : ∀ before line after, lines = before ++ line :: after → ∃ earlier storeBefore mBefore,
    o.run (store.run config.reputation (before.mapM (answerLine config.scoring))) m
        = ((earlier, storeBefore), mBefore)
      ∧ answers[before.length]?
        = some (o.run (storeBefore.run config.reputation (answerLine config.scoring line)) mBefore).1.1

section Machine

variable (o : Outside) (config : Config) (store : OpenStore) (m : MachineState)

theorem exists_inStep (lines : List String) :
    ∃ answers store' m',
      o.run (store.run config.reputation (lines.mapM (answerLine config.scoring))) m
          = ((answers, store'), m')
        ∧ InStep o config store m lines answers ∧ ∀ answer ∈ answers, IsResponse answer := by
  refine ⟨_, _, _, run_holding o config.reputation _ store m, ⟨?_, ?_⟩, ?_⟩
  · exact Program.length_runWith_mapM (I := services) _ _ lines _
  · rintro before line after rfl
    refine ⟨_, _, _, run_holding o config.reputation _ store m, ?_⟩
    rw [run_holding]
    exact Program.getElem?_runWith_mapM (I := services) _ _ before line after _
  · intro answer hanswer
    obtain ⟨line, -, held, rfl⟩ := Program.exists_of_mem_runWith_mapM (I := services) _ hanswer
    exact isResponse_answerLine (o.holding config.reputation) config.scoring line held

/-- `serve` ends with what was answered, whichever store is in use. -/
theorem perform_serve_of_run (input : ByteArray) {answers : List String} {store' : OpenStore}
    {m' : MachineState}
    (hrun : o.run (store.run config.reputation
      ((answeredLines (inputTexts input)).mapM (answerLine config.scoring))) m = ((answers, store'), m')) :
    o.perform (store.perform config.reputation (serve input config.scoring)) m
      = (.ok (servedOutput ((inputTexts input).all Option.isSome) answers), m') := by
  have hwork : o.perform (store.perform config.reputation (serve input config.scoring)) m
      = o.run ((store.run config.reputation (serve input config.scoring).run).andThen fun done =>
          .done done.1) m := rfl
  rw [hwork, serve_eq, OpenStore.run_andThen, o.run_andThen, o.run_andThen, hrun]
  rfl

end Machine

/-- Serving keeps requests and responses in step, over any bytes and with any configuration and store that
    can be opened: each of the `answeredLines` is answered in turn by one line that `IsResponse`. The run
    ends with an error just if there is a line that is no text, and what the lines before it did stays. -/
theorem run_serve (o : Outside) (env : Environment) (input : ByteArray) {arguments : List String}
    {options : Options} {config : Config} {store : OpenStore} {m₀ m₁ m : MachineState}
    (hparse : parse arguments = .run options .serve)
    (hconfig : o.perform (loadConfig options env) m₀ = (.ok config, m₁))
    (hstore : o.perform (openStore options config) m₁ = (.ok store, m)) :
    ∃ answers store' m',
      o.run (run arguments env input) m₀
          = (servedOutput ((inputTexts input).all Option.isSome) answers, m')
        ∧ o.run (store.run config.reputation
            ((answeredLines (inputTexts input)).mapM (answerLine config.scoring))) m
          = ((answers, store'), m')
        ∧ InStep o config store m (answeredLines (inputTexts input)) answers
        ∧ textLines (Report.lines answers).toUTF8 = answers.map some
        ∧ ∀ answer ∈ answers, IsResponse answer := by
  obtain ⟨answers, store', m', hrun, hstep, hresponses⟩ :=
    exists_inStep o config store m (answeredLines (inputTexts input))
  refine ⟨answers, store', m', ?_, hrun, hstep, ?_, hresponses⟩
  · have hserve : o.perform (withStore options env (serve input)) m₀
        = (.ok (servedOutput ((inputTexts input).all Option.isSome) answers), m') := by
      rw [withStore, Outside.perform_bind_of_ok hconfig, Outside.perform_bind_of_ok hstore]
      exact perform_serve_of_run o config store m input hrun
    rw [run_of_parse o env hparse, Command.run, hserve]
    cases (inputTexts input).all Option.isSome <;> rfl
  · exact textLines_lines fun answer hanswer => (hresponses answer hanswer).unbroken

/-- Two lines with a blank one between them, a byte that is in no text, and one more line. -/
def brokenInput : ByteArray :=
  "nonsense\r\n \t\n[]\n".toUTF8 ++ ⟨#[255, 10]⟩ ++ "[]\n".toUTF8

theorem brokenInput_served :
    let o : Outside := ⟨fun _ _ => none, fun _ => 0⟩
    let start : MachineState := ⟨Store.emptyDisk, [], 0⟩
    ∃ m, parse ["serve"] = .run {} .serve ∧ o.perform (loadConfig {} {}) start = (.ok {}, start)
      ∧ o.perform (openStore {} {}) start = (.ok (.file ".cspguard/store.json"), m)
      ∧ ∃ answers m', o.run (run ["serve"] {} brokenInput) start
          = (⟨2, Report.lines answers, "Error: IO error: stream did not contain valid UTF-8\n"⟩, m')
        ∧ InStep o {} (.file ".cspguard/store.json") m ["nonsense", "[]"] answers
        ∧ ∀ answer ∈ answers, IsResponse answer := by
  intro o start
  have hparse : parse ["serve"] = .run {} .serve := by decide +kernel
  have hconfig : o.perform (loadConfig {} {}) start = (.ok {}, start) := by
    have hnone : start.disk.find? Config.defaultPath = none := by decide +kernel
    rw [perform_loadConfig, hnone]
    rfl
  obtain ⟨opened, hopen⟩ : ∃ opened,
      Store.runOn Store.emptyDisk (Store.openFile ".cspguard/store.json") = (.ok (), opened) :=
    ⟨⟨Table.ofList [("home", .directory), ("home/.cspguard", .directory)], ["home"]⟩, by decide +kernel⟩
  have hfile : o.perform (ExceptT.mk (onMachine (Store.openFile ".cspguard/store.json").run)) start
      = (.ok (), { start with disk := opened }) := by
    rw [o.perform_onMachine, hopen]
  have hstore : o.perform (openStore {} {}) start
      = (.ok (.file ".cspguard/store.json"), { start with disk := opened }) :=
    Outside.perform_bind_of_ok hfile _
  have hlines : answeredLines (inputTexts brokenInput) = ["nonsense", "[]"] := by decide +kernel
  have hbroken : (inputTexts brokenInput).all Option.isSome = false := by decide +kernel
  obtain ⟨answers, store', m', hrun, -, hstep, -, hresponses⟩ :=
    run_serve o {} brokenInput hparse hconfig hstore
  rw [hbroken] at hrun
  rw [hlines] at hstep
  exact ⟨_, hparse, hconfig, hstore, answers, m', hrun, hstep, hresponses⟩

end PageRisk.CommandLine

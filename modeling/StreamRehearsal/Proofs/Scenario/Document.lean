import StreamRehearsal.Command.Run
import StreamRehearsal.Proofs.Json.RoundTrip

/-! # Scenarios read back

Whatever is written as JSON is read back as it was: operations, actions, timelines, treatments and
scenarios, whether their parts belong together or not.

* The readers of single values and of records undo what is written, one lemma for each.
* `ofDocument?_toDocument` of each type says that its document stands for it.
* `Json.ReadsBack` is the same for texts, in both layouts, and `json_loses_nothing` puts all of it
  together. -/

namespace StreamRehearsal

namespace Document

/-! ### Single values -/

@[simp] theorem fits_ofCount (room : Nat) (n : UInt64) : (ofCount n).fits room = true := by
  rw [ofCount, natural, fits]
  exact Number.isFinite_natural_of_le (toNat_le_maxCount n)

@[simp] theorem fits_ofCode (room : Nat) (n : UInt16) : (ofCode n).fits room = true := by
  rw [ofCode, natural, fits]
  refine Number.isFinite_natural_of_le ?_
  have hsize := n.toNat_lt
  unfold maxCount
  omega

@[simp] theorem count?_ofCount (n : UInt64) : (ofCount n).count? = some n := by
  rw [count?, ofCount, natural, natural?, if_pos (toNat_le_maxCount n), Option.map_some,
    UInt64.ofNat_toNat]

@[simp] theorem word16?_ofCode (n : UInt16) : (ofCode n).word16? = some n := by
  have hsize : n.toNat ≤ UInt16.size - 1 := Nat.le_pred_of_lt n.toNat_lt
  rw [word16?, ofCode, natural, natural?, if_pos hsize, Option.map_some, UInt16.ofNat_toNat]

/-- A value that may be absent is read back if no value is written as null. -/
theorem optional?_ofOption {α : Type} {write : α → Document} {read? : Document → Option α}
    (hread : ∀ a, read? (write a) = some a) (hnull : ∀ a, write a ≠ .null) (o : Option α) :
    optional? read? (ofOption write o) = some o := by
  cases o with
  | none => rfl
  | some a =>
      rw [ofOption, optional?, hread]
      · rfl
      · exact hnull a

theorem listOf?_map {α : Type} {write : α → Document} {read? : Document → Option α}
    (hread : ∀ a, read? (write a) = some a) (as : List α) :
    listOf? read? (.list (as.map write)) = some as :=
  Json.mapM_map_of_inverse hread as

/-! ### Records -/

/-- A record that names its kind in front is taken apart, if its fields fit and none of them names
the kind again. -/
theorem kindAndRest?_table {room : Nat} {tag kind : String} {fields : Fields} (hroom : 0 < room)
    (hfits : fitsFields (room - 1) fields = true) (htag : ∀ f ∈ fields, f.1 ≠ tag) :
    kindAndRest? room tag (.table ((tag, .text kind) :: fields)) = some (kind, .table fields) := by
  have hwhole : fits room (.table ((tag, .text kind) :: fields)) = true := by
    simp [fits, fitsFields, hroom, hfits]
  have hother : fields.filter (fun f => f.1 == tag) = [] := by
    simpa [List.filter_eq_nil_iff] using htag
  have hrest : fields.filter (fun f => f.1 != tag) = fields := by
    simpa [List.filter_eq_self] using htag
  rw [kindAndRest?, if_pos hwhole]
  simp [tagged?, hother, hrest]

@[simp] theorem countField?_table (name : String) (n : UInt64) :
    countField? name (.table [(name, .ofCount n)]) = some n := by
  simp [countField?, record?, Fields.required, Fields.get?_cons]

@[simp] theorem codeField?_table (name : String) (n : UInt16) :
    codeField? name (.table [(name, .ofCode n)]) = some n := by
  simp [codeField?, record?, Fields.required, Fields.get?_cons]

/-- A record of one of several kinds with a single field. -/
theorem kindAndRest?_single {room : Nat} (hroom : 0 < room) {tag name : String} (kind : String)
    (hname : name ≠ tag) {d : Document} (hfits : d.fits (room - 1) = true) :
    kindAndRest? room tag (.table [(tag, .text kind), (name, d)]) =
      some (kind, .table [(name, d)]) :=
  kindAndRest?_table hroom (by simp [fitsFields, hfits]) (by simpa using hname)

end Document

/-! ### Each type -/

theorem Operation.ofDocument?_toDocument {room : Nat} (hroom : 0 < room) (op : Operation) :
    ofDocument? room op.toDocument = some op := by
  cases op with
  | startup delay =>
      rw [ofDocument?, toDocument, Document.kindAndRest?_single hroom "startup" (by decide)
        (Document.fits_ofCount _ _)]
      simp
  | playback duration =>
      rw [ofDocument?, toDocument, Document.kindAndRest?_single hroom "playback" (by decide)
        (Document.fits_ofCount _ _)]
      simp
  | rebuffer delay =>
      rw [ofDocument?, toDocument, Document.kindAndRest?_single hroom "rebuffer" (by decide)
        (Document.fits_ofCount _ _)]
      simp
  | failure code =>
      rw [ofDocument?, toDocument, Document.kindAndRest?_single hroom "error" (by decide)
        (Document.fits_ofCode _ _)]
      simp

theorem Treatment.ofDocument?_toDocument {room : Nat} (hroom : 0 < room) (t : Treatment) :
    ofDocument? room t.toDocument = some t := by
  cases t with
  | normal =>
      have hkind : Document.kindAndRest? room "action" (.table [("action", .text "normal")]) =
          some ("normal", .table []) :=
        Document.kindAndRest?_table hroom rfl nofun
      rw [ofDocument?, toDocument, hkind]
      rfl
  | delayed delay =>
      rw [ofDocument?, toDocument, Document.kindAndRest?_single hroom "delayed_normal" (by decide)
        (Document.fits_ofCount _ _)]
      simp
  | failure code =>
      rw [ofDocument?, toDocument, Document.kindAndRest?_single hroom "failure" (by decide)
        (Document.fits_ofCode _ _)]
      simp
  | delayedFailure delay code =>
      rw [ofDocument?, toDocument, Document.kindAndRest?_table hroom (by simp [Document.fitsFields])
        (by simp)]
      simp [Document.record?, Fields.required, Fields.get?_cons]

theorem SegmentAction.ofDocument?_toDocument (a : SegmentAction) :
    ofDocument? a.toDocument = some a := by
  have hdelay : (Document.ofOption .ofCount a.delay).optional? Document.count? = some a.delay :=
    Document.optional?_ofOption Document.count?_ofCount (fun _ => nofun) a.delay
  have hcode : (Document.ofOption .ofCode a.code).optional? Document.word16? = some a.code :=
    Document.optional?_ofOption Document.word16?_ofCode (fun _ => nofun) a.code
  simp [ofDocument?, toDocument, Document.record?, Fields.required, Fields.orElse,
    Fields.get?_cons, hdelay, hcode]

theorem Timeline.ofDocument?_toDocument (t : Timeline) : ofDocument? t.toDocument = some t := by
  rw [ofDocument?, toDocument, Document.listOf?_map SegmentAction.ofDocument?_toDocument]
  rfl

theorem Scenario.ofDocument?_toDocument (s : Scenario) : ofDocument? s.toDocument = some s := by
  have hroom : 0 < nestingRoom - 2 := by decide
  have hoperations := Document.listOf?_map (Operation.ofDocument?_toDocument hroom) s.operations
  have htimeline := Timeline.ofDocument?_toDocument s.timeline
  simp [ofDocument?, toDocument, Document.record?, Fields.required, Fields.get?_cons, hoperations,
    htimeline]

/-! ### Texts -/

/-- What is written as JSON is read back, on one line or with every part on a line of its own. -/
def Json.ReadsBack {α : Type} (write : α → Document) (read? : Document → Option α) : Prop :=
  ∀ a, (Json.read (Json.compact (write a))).bind read? = some a ∧
    (Json.read (Json.pretty (write a))).bind read? = some a

theorem Json.readsBack_of_documents {α : Type} {write : α → Document}
    {read? : Document → Option α} (h : ∀ a, read? (write a) = some a) :
    Json.ReadsBack write read? := by
  intro a
  rw [Json.read_compact, Json.read_pretty, Option.bind_some]
  exact ⟨h a, h a⟩

theorem Scenario.read_toJson (s : Scenario) :
    (Json.read s.toJson).bind Scenario.ofDocument? = some s := by
  rw [toJson, Json.read_pretty_append, Option.bind_some]
  exact ofDocument?_toDocument s

/-- **The JSON form loses nothing.**  Operations, actions, timelines, treatments and scenarios are
read back from either text as they were, and so is the scenario that is shown to a reader: it is the
one that its string compiles to, and treats every segment in the same way. -/
theorem json_loses_nothing :
    Json.ReadsBack Operation.toDocument (Operation.ofDocument? nestingRoom) ∧
      Json.ReadsBack SegmentAction.toDocument SegmentAction.ofDocument? ∧
      Json.ReadsBack Timeline.toDocument Timeline.ofDocument? ∧
      Json.ReadsBack Treatment.toDocument (Treatment.ofDocument? nestingRoom) ∧
      Json.ReadsBack Scenario.toDocument Scenario.ofDocument? ∧
      ∀ (env : Environment) (path : String),
        let shown := (Json.read (Command.run env (.inspect path true)).output).bind
          Scenario.ofDocument?
        shown = some (Scenario.compile path) ∧
          ∀ stem, shown.map (fun s => s.resolveSegment stem) =
            some ((Scenario.compile path).resolveSegment stem) := by
  have hroom : 0 < nestingRoom := by decide
  refine ⟨Json.readsBack_of_documents (Operation.ofDocument?_toDocument hroom),
    Json.readsBack_of_documents SegmentAction.ofDocument?_toDocument,
    Json.readsBack_of_documents Timeline.ofDocument?_toDocument,
    Json.readsBack_of_documents (Treatment.ofDocument?_toDocument hroom),
    Json.readsBack_of_documents Scenario.ofDocument?_toDocument, ?_⟩
  intro env path shown
  have hshown : shown = some (Scenario.compile path) :=
    Scenario.read_toJson (Scenario.compile path)
  refine ⟨hshown, fun stem => ?_⟩
  rw [hshown]
  rfl

end StreamRehearsal

import JavaMetrics.Config.Basic
import JavaMetrics.Facts.Form
import JavaMetrics.Proofs.Reading
import JavaMetrics.Report.Basic

/-!
Reports, class facts and configurations are read back from their JSON form. Two things can be lost
on the way: a number of more than 64 bits is not read, and a number that is not finite is written
as null. Each record lists the numbers it holds; without such numbers it is read back.
-/

set_option autoImplicit false

namespace JavaMetrics

open Json Json.Members

attribute [local simp] List.lookup_cons List.lookup_append

def AllWords (ns : List Nat) : Prop := ∀ n ∈ ns, n < wordLimit

instance (ns : List Nat) : Decidable (AllWords ns) :=
  inferInstanceAs (Decidable (∀ n ∈ ns, n < wordLimit))

def AllFinite (fs : List Float) : Prop := ∀ f ∈ fs, f.isFinite = true

instance (fs : List Float) : Decidable (AllFinite fs) :=
  inferInstanceAs (Decidable (∀ f ∈ fs, f.isFinite = true))

namespace Span

def counters (s : Span) : List Nat :=
  [s.startByte, s.endByte, s.startLine, s.startCol, s.endLine, s.endCol]

theorem readsBack {s : Span} (h : AllWords s.counters) : ReadsBack toJson ofJson? s := by
  simp only [AllWords, counters, List.forall_mem_cons] at h
  obtain ⟨hstartByte, hendByte, hstartLine, hstartCol, hendLine, hendCol, -⟩ := h
  exact toRecord?_obj <|
    .bind (.required rfl (readsBack_nat hstartByte)) <|
    .bind (.required rfl (readsBack_nat hendByte)) <|
    .bind (.required rfl (readsBack_nat hstartLine)) <|
    .bind (.required rfl (readsBack_nat hstartCol)) <|
    .bind (.required rfl (readsBack_nat hendLine)) <|
    .bind (.required rfl (readsBack_nat hendCol)) (.pure _)

end Span

theorem ClassKind.readsBack (k : ClassKind) : ReadsBack toJson ofJson? k :=
  readsBack_choice ofText?_text k

theorem Import.readsBack {i : Import} (h : i.line < wordLimit) : ReadsBack toJson ofJson? i :=
  toRecord?_obj <|
    .bind (.required rfl (readsBack_text i.path)) <|
    .bind (.required rfl (readsBack_bool i.isStatic)) <|
    .bind (.required rfl (readsBack_bool i.isWildcard)) <|
    .bind (.required rfl (readsBack_nat h)) (.pure _)

theorem FieldDecl.readsBack {f : FieldDecl} (h : f.line < wordLimit) :
    ReadsBack toJson ofJson? f :=
  toRecord?_obj <|
    .bind (.required rfl (readsBack_text f.name)) <|
    .bind (.required rfl (readsBack_text f.typeName)) <|
    .bind (.required rfl (readsBack_nat h)) (.pure _)

theorem Parameter.readsBack (p : Parameter) : ReadsBack toJson ofJson? p :=
  toRecord?_obj <|
    .bind (.required rfl (readsBack_text p.name)) <|
    .bind (.required rfl (readsBack_text p.typeName)) (.pure _)

theorem Receiver.readsBack (r : Receiver) : ReadsBack toJson ofJson? r := by
  cases r <;> rfl

theorem Call.readsBack {c : Call} (h : c.line < wordLimit) : ReadsBack toJson ofJson? c :=
  toRecord?_obj <|
    .bind (.required rfl (readsBack_text c.name)) <|
    .bind (.required rfl (Receiver.readsBack c.receiver)) <|
    .bind (.required rfl (readsBack_nat h)) (.pure _)

namespace Decisions

def counters (d : Decisions) : List Nat := [d.ifs, d.loops, d.cases, d.ternaries, d.catches]

theorem readsBack {d : Decisions} (h : AllWords d.counters) : ReadsBack toJson ofJson? d := by
  simp only [AllWords, counters, List.forall_mem_cons] at h
  obtain ⟨hifs, hloops, hcases, hternaries, hcatches, -⟩ := h
  exact toRecord?_obj <|
    .bind (.required rfl (readsBack_nat hifs)) <|
    .bind (.required rfl (readsBack_nat hloops)) <|
    .bind (.required rfl (readsBack_nat hcases)) <|
    .bind (.required rfl (readsBack_nat hternaries)) <|
    .bind (.required rfl (readsBack_nat hcatches)) (.pure _)

end Decisions

namespace Body

def counters (b : Body) : List Nat := b.decisions.counters ++ b.calls.map (·.line)

theorem readsBack {b : Body} (h : AllWords b.counters) : ReadsBack toJson ofJson? b := by
  simp only [AllWords, counters, List.forall_mem_append, List.forall_mem_map] at h
  obtain ⟨hdecisions, hcalls⟩ := h
  exact toRecord?_obj <|
    .bind (.required rfl (Decisions.readsBack hdecisions)) <|
    .bind (.required rfl (readsBack_list fun c hc => Call.readsBack (hcalls c hc))) <|
    .bind (.required rfl (readsBack_texts b.fieldRefs)) <|
    .bind (.required rfl (readsBack_texts b.instantiations)) <|
    .bind (.required rfl (readsBack_texts b.casts)) <|
    .bind (.required rfl (readsBack_dict fun s _ => readsBack_text s)) (.pure _)

end Body

theorem str_ne_null (s : String) : str s ≠ null := nofun

theorem readsBack_optionalText (o : Option String) :
    ReadsBack (ofOption .str) (toOption? toText?) o :=
  readsBack_option str_ne_null fun s _ => readsBack_text s

namespace Method

def counters (m : Method) : List Nat := m.span.counters ++ m.body.counters

theorem readsBack {m : Method} (h : AllWords m.counters) : ReadsBack toJson ofJson? m := by
  simp only [AllWords, counters, List.forall_mem_append] at h
  obtain ⟨hspan, hbody⟩ := h
  exact toRecord?_obj <|
    .bind (.required rfl (readsBack_text m.name)) <|
    .bind (.required rfl (readsBack_list fun p _ => Parameter.readsBack p)) <|
    .bind (.optional rfl (readsBack_optionalText m.returnType)) <|
    .bind (.required rfl (Span.readsBack hspan)) <|
    .bind (.required rfl (Body.readsBack hbody)) (.pure _)

end Method

namespace ClassFacts

def counters (u : ClassFacts) : List Nat :=
  u.imports.map (·.line) ++ u.fields.map (·.line) ++ u.methods.flatMap (·.counters) ++
    u.constructors.flatMap (·.counters) ++ u.initializers.counters ++ u.span.counters

theorem readsBack {u : ClassFacts} (h : AllWords u.counters) : ReadsBack toJson ofJson? u := by
  simp only [AllWords, counters, List.forall_mem_append, List.forall_mem_map,
    List.forall_mem_flatMap] at h
  obtain ⟨⟨⟨⟨⟨himports, hfields⟩, hmethods⟩, hconstructors⟩, hinitializers⟩, hspan⟩ := h
  exact toRecord?_obj <|
    .bind (.required rfl (readsBack_text u.path)) <|
    .bind (.optional rfl (readsBack_optionalText u.package)) <|
    .bind (.required rfl (readsBack_text u.name)) <|
    .bind (.required rfl (ClassKind.readsBack u.kind)) <|
    .bind (.required rfl (readsBack_list fun i hi => Import.readsBack (himports i hi))) <|
    .bind (.optional rfl (readsBack_optionalText u.superclass)) <|
    .bind (.required rfl (readsBack_texts u.interfaces)) <|
    .bind (.required rfl (readsBack_texts u.nestedTypes)) <|
    .bind (.required rfl (readsBack_texts u.typeParameters)) <|
    .bind (.required rfl (readsBack_list fun f hf => FieldDecl.readsBack (hfields f hf))) <|
    .bind (.required rfl (readsBack_list fun m hm => Method.readsBack (hmethods m hm))) <|
    .bind (.required rfl (readsBack_list fun m hm => Method.readsBack (hconstructors m hm))) <|
    .bind (.required rfl (Body.readsBack hinitializers)) <|
    .bind (.required rfl (Span.readsBack hspan)) (.pure _)

end ClassFacts

theorem Measurement.readsBack {m : Measurement} (hobserved : m.observed.isFinite = true)
    (hthreshold : m.threshold.isFinite = true) : ReadsBack toJson ofJson? m :=
  toRecord?_obj <|
    .bind (.required rfl (readsBack_text m.metric)) <|
    .bind (.required rfl (readsBack_float hobserved)) <|
    .bind (.required rfl (readsBack_float hthreshold)) (.pure _)

namespace Smell

def floats (s : Smell) : List Float := s.evidence.flatMap fun m => [m.observed, m.threshold]

theorem lookup_member (member : Option String) (k : String) :
    (member.map fun m => ("member", Json.str m)).toList.lookup k =
      if k == "member" then member.map .str else none := by
  cases member with
  | none => exact (ite_self none).symm
  | some m => cases h : k == "member" <;> simp [h]

theorem readsBack {s : Smell} (hline : s.line < wordLimit) (hfloats : AllFinite s.floats) :
    ReadsBack toJson ofJson? s := by
  simp only [AllFinite, floats, List.forall_mem_flatMap, List.forall_mem_cons] at hfloats
  have hevidence (m : Measurement) (hm : m ∈ s.evidence) :
      ReadsBack Measurement.toJson Measurement.ofJson? m :=
    Measurement.readsBack (hfloats m hm).1 (hfloats m hm).2.1
  exact toRecord?_obj <|
    .bind (.required rfl (readsBack_choice SmellKind.ofText?_text s.kind)) <|
    .bind (.required rfl (readsBack_text s.className)) <|
    .bind (.value str_ne_null (by simp [lookup_member]) fun m _ => readsBack_text m) <|
    .bind (.required (by simp [lookup_member]) (readsBack_nat hline)) <|
    .bind (.required (by simp [lookup_member]) (readsBack_text s.details)) <|
    .bind (.present (by simp [lookup_member]) (readsBack_list hevidence)) (.pure _)

end Smell

namespace SmellThresholds

def counters (t : SmellThresholds) : List Nat :=
  [t.godClassLoc, t.godClassWmc, t.godClassCbo, t.longMethodLoc, t.longParameterList,
    t.dataClassMaxMethods, t.featureEnvyMinExternalCalls]

theorem readsBack {t : SmellThresholds} (h : AllWords t.counters)
    (hratio : t.featureEnvyRatio.isFinite = true) : ReadsBack toJson ofJson? t := by
  simp only [AllWords, counters, List.forall_mem_cons] at h
  obtain ⟨hloc, hwmc, hcbo, hmethod, hparameters, hmethods, hcalls, -⟩ := h
  exact toRecord?_obj <|
    .bind (.present rfl (readsBack_nat hloc)) <|
    .bind (.present rfl (readsBack_nat hwmc)) <|
    .bind (.present rfl (readsBack_nat hcbo)) <|
    .bind (.present rfl (readsBack_nat hmethod)) <|
    .bind (.present rfl (readsBack_nat hparameters)) <|
    .bind (.present rfl (readsBack_nat hmethods)) <|
    .bind (.present rfl (readsBack_float hratio)) <|
    .bind (.present rfl (readsBack_nat hcalls)) (.pure _)

end SmellThresholds

namespace Config

def counters (c : Config) : List Nat := c.smells.counters ++ c.timeoutSecs.toList

theorem readsBack {c : Config} (h : AllWords c.counters)
    (hratio : c.smells.featureEnvyRatio.isFinite = true) : ReadsBack toJson ofJson? c := by
  simp only [AllWords, counters, List.forall_mem_append, Option.mem_toList] at h
  obtain ⟨hsmells, htimeout⟩ := h
  exact toRecord?_obj <|
    .bind (.present rfl (SmellThresholds.readsBack hsmells hratio)) <|
    .bind (.present rfl (readsBack_texts c.excludedPaths)) <|
    .bind (.present rfl (readsBack_option (fun _ => nofun) fun b _ => readsBack_bool b)) <|
    .bind (.present rfl (readsBack_option (fun _ => nofun) fun n hn =>
      readsBack_nat (htimeout n hn))) <|
    .bind (.present rfl (readsBack_bool c.parallel)) (.pure _)

end Config

theorem TypeRef.readsBack (t : TypeRef) : ReadsBack toJson ofJson? t := by
  cases t with
  | resolved n => rfl
  | ambiguous s cs =>
    exact toRecord?_obj <|
      .bind (.required rfl (readsBack_text s)) <|
      .bind (.required rfl (readsBack_texts cs)) (.pure _)

theorem Dependency.readsBack (d : Dependency) : ReadsBack toJson ofJson? d :=
  toRecord?_obj <|
    .bind (.required rfl (readsBack_text d.source)) <|
    .bind (.required rfl (TypeRef.readsBack d.target)) (.pure _)

theorem AmbiguityNote.readsBack (n : AmbiguityNote) : ReadsBack toJson ofJson? n :=
  toRecord?_obj <|
    .bind (.required rfl (readsBack_text n.className)) <|
    .bind (.required rfl (readsBack_text n.simpleName)) <|
    .bind (.required rfl (readsBack_texts n.candidates)) <|
    .bind (.required rfl (readsBack_choice AmbiguityContext.ofText?_text n.context)) (.pure _)

theorem FileFailure.readsBack (f : FileFailure) : ReadsBack toJson ofJson? f :=
  toRecord?_obj <|
    .bind (.required rfl (readsBack_text f.path)) <|
    .bind (.required rfl (readsBack_choice FailureKind.ofText?_text f.kind)) <|
    .bind (.required rfl (readsBack_text f.message)) (.pure _)

theorem Revision.readsBack (r : Revision) : ReadsBack toJson ofJson? r :=
  toRecord?_obj <|
    .bind (.required rfl (readsBack_text r.repositoryId)) <|
    .bind (.required rfl (readsBack_text r.revisionId)) (.pure _)

namespace ClassMetrics

def counters (c : ClassMetrics) : List Nat :=
  [c.loc, c.wmc, c.dit, c.noc, c.cbo, c.rfc, c.methodCount, c.attributeCount, c.inDegree,
    c.outDegree]

theorem readsBack {c : ClassMetrics} (h : AllWords c.counters) (hlcom : c.lcom.isFinite = true) :
    ReadsBack toJson ofJson? c := by
  simp only [AllWords, counters, List.forall_mem_cons] at h
  obtain ⟨hloc, hwmc, hdit, hnoc, hcbo, hrfc, hmethods, hattributes, hin, hout, -⟩ := h
  exact toRecord?_obj <|
    .bind (.required rfl (readsBack_text c.className)) <|
    .bind (.required rfl (readsBack_text c.qualifiedName)) <|
    .bind (.optional rfl (readsBack_optionalText c.package)) <|
    .bind (.required rfl (readsBack_text c.filePath)) <|
    .bind (.required rfl (readsBack_nat hloc)) <|
    .bind (.required rfl (readsBack_nat hwmc)) <|
    .bind (.required rfl (readsBack_nat hdit)) <|
    .bind (.required rfl (readsBack_nat hnoc)) <|
    .bind (.required rfl (readsBack_nat hcbo)) <|
    .bind (.required rfl (readsBack_nat hrfc)) <|
    .bind (.required rfl (readsBack_float hlcom)) <|
    .bind (.required rfl (readsBack_nat hmethods)) <|
    .bind (.required rfl (readsBack_nat hattributes)) <|
    .bind (.present rfl (readsBack_texts c.dependenciesIn)) <|
    .bind (.present rfl (readsBack_texts c.dependenciesOut)) <|
    .bind (.present rfl (readsBack_nat hin)) <|
    .bind (.present rfl (readsBack_nat hout)) (.pure _)

end ClassMetrics

namespace ClassReport

def counters (c : ClassReport) : List Nat := c.metrics.counters ++ c.smells.map (·.line)

def floats (c : ClassReport) : List Float := c.metrics.lcom :: c.smells.flatMap (·.floats)

theorem readsBack {c : ClassReport} (h : AllWords c.counters) (hf : AllFinite c.floats) :
    ReadsBack toJson ofJson? c := by
  simp only [AllWords, counters, List.forall_mem_append, List.forall_mem_map] at h
  simp only [AllFinite, floats, List.forall_mem_cons, List.forall_mem_flatMap] at hf
  have hsmells (s : Smell) (hs : s ∈ c.smells) : ReadsBack Smell.toJson Smell.ofJson? s :=
    Smell.readsBack (h.2 s hs) (hf.2 s hs)
  exact toRecord?_obj <|
    .bind (.required rfl (ClassMetrics.readsBack h.1 hf.1)) <|
    .bind (.required rfl (readsBack_list fun d _ => Dependency.readsBack d)) <|
    .bind (.required rfl (readsBack_list hsmells)) (.pure _)

end ClassReport

namespace BatchCounts

def counters (c : BatchCounts) : List Nat :=
  [c.filesScanned, c.classesFound, c.edgesFound, c.smellsFound]

theorem readsBack {c : BatchCounts} (h : AllWords c.counters) : ReadsBack toJson ofJson? c := by
  simp only [AllWords, counters, List.forall_mem_cons] at h
  obtain ⟨hfiles, hclasses, hedges, hsmells, -⟩ := h
  exact toRecord?_obj <|
    .bind (.required rfl (readsBack_nat hfiles)) <|
    .bind (.required rfl (readsBack_nat hclasses)) <|
    .bind (.required rfl (readsBack_nat hedges)) <|
    .bind (.required rfl (readsBack_nat hsmells)) (.pure _)

end BatchCounts

namespace Report

def counters (r : Report) : List Nat :=
  r.classes.values.flatMap (·.counters) ++ r.counts.counters ++ r.thresholds.counters

def floats (r : Report) : List Float :=
  r.thresholds.featureEnvyRatio :: r.classes.values.flatMap (·.floats)

theorem lookup_listField {α : Type} (key : String) (enc : α → Json) (xs : List α) (k : String) :
    (listField key enc xs).lookup k =
      if k == key then (if xs.isEmpty then none else some (ofList enc xs)) else none := by
  cases xs with
  | nil => exact (ite_self none).symm
  | cons x rest => cases h : k == key <;> simp [listField, h]

theorem readsBack {r : Report} (h : AllWords r.counters) (hf : AllFinite r.floats) :
    ReadsBack toJson ofJson? r := by
  simp only [AllWords, counters, List.forall_mem_append, List.forall_mem_flatMap] at h
  simp only [AllFinite, floats, List.forall_mem_cons, List.forall_mem_flatMap] at hf
  obtain ⟨⟨hclasses, hcounts⟩, hthresholds⟩ := h
  have hclass (c : ClassReport) (hc : c ∈ r.classes.values) :
      ReadsBack ClassReport.toJson ClassReport.ofJson? c :=
    ClassReport.readsBack (hclasses c hc) (hf.2 c hc)
  exact toRecord?_obj <|
    .bind (.required rfl (Revision.readsBack r.revision)) <|
    .bind (.required rfl (readsBack_dict hclass)) <|
    .bind (.required rfl (BatchCounts.readsBack hcounts)) <|
    .bind (.list (by simp [lookup_listField]) fun f _ => FileFailure.readsBack f) <|
    .bind (.list (by simp [lookup_listField]) fun s _ => readsBack_text s) <|
    .bind (.list (by simp [lookup_listField]) fun n _ => AmbiguityNote.readsBack n) <|
    .bind (.required (by simp [lookup_listField])
      (SmellThresholds.readsBack hthresholds hf.1)) <|
    .bind (.present (by simp [lookup_listField]) (readsBack_bool r.incomplete)) (.pure _)

end Report

/-- The written forms of reports, class facts and configurations are read back. -/
theorem written_forms_read_back :
    (∀ r : Report, AllWords r.counters → AllFinite r.floats →
      Report.ofJson? r.toJson = some r) ∧
    (∀ u : ClassFacts, AllWords u.counters → ClassFacts.ofJson? u.toJson = some u) ∧
    ∀ c : Config, AllWords c.counters → c.smells.featureEnvyRatio.isFinite = true →
      Config.ofJson? c.toJson = some c :=
  ⟨fun _ => Report.readsBack, fun _ => ClassFacts.readsBack, fun _ => Config.readsBack⟩

namespace Specimen

def metrics : ClassMetrics where
  className := "A"
  qualifiedName := "p.A"
  package := some "p"
  filePath := "p/A.java"
  loc := 612
  wmc := 3
  dit := 1
  noc := 0
  cbo := 1
  rfc := 2
  lcom := 0.5
  methodCount := 1
  attributeCount := 1
  dependenciesOut := ["q.B"]
  outDegree := 1

def longMethod : Smell where
  kind := .longMethod
  className := "p.A"
  member := some "run"
  line := 7
  details := "method 'run' has 61 lines"
  evidence := [⟨"loc", 61, 50⟩]

def dataClass : Smell where
  kind := .dataClass
  className := "p.A"
  line := 1
  details := ""

def classReport : ClassReport where
  metrics := metrics
  dependencies := [⟨"p.A", .resolved "q.B"⟩, ⟨"p.A", .ambiguous "C" ["p.C", "q.C"]⟩]
  smells := [longMethod, dataClass]

def report : Report where
  revision := ⟨"repository", "revision"⟩
  classes := .ofList [("p.A", classReport)]
  counts := ⟨2, 1, 0, 2⟩
  failures := [⟨"p/Broken.java", .parse, "failed to parse p/Broken.java"⟩]
  ambiguities := [⟨"p.A", "C", ["p.C", "q.C"], .dependency⟩]
  thresholds := {}

def method : Method where
  name := "run"
  parameters := [⟨"b", "B"⟩]
  returnType := some "int"
  body := { decisions := { ifs := 2 }, calls := [⟨"get", .name "b", 8⟩], fieldRefs := ["b"],
            localTypes := .ofList [("c", "C")] }

def facts : ClassFacts where
  path := "p/A.java"
  package := some "p"
  name := "A"
  imports := [⟨"q", false, true, 2⟩]
  fields := [⟨"b", "B", 5⟩]
  methods := [method]
  span := .lines 4 615

def config : Config where
  excludedPaths := ["**/generated/**"]
  timeoutSecs := some 30

end Specimen

theorem specimens_read_back :
    Report.ofJson? Specimen.report.toJson = some Specimen.report ∧
      ClassFacts.ofJson? Specimen.facts.toJson = some Specimen.facts ∧
      Config.ofJson? Specimen.config.toJson = some Specimen.config :=
  ⟨written_forms_read_back.1 _ (by decide) (by decide),
    written_forms_read_back.2.1 _ (by decide),
    written_forms_read_back.2.2 _ (by decide) (by decide)⟩

end JavaMetrics

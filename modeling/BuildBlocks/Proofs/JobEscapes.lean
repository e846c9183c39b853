import BuildBlocks.Proofs.Escapes
import BuildBlocks.Proofs.JobScript

/-!
# Jobs that fail otherwise than by a fault

A job among others makes its accesses on disks that the others change, so it need not fail as it does
alone. What can be said is which of its own steps failed: `Job.Escapes` lists them by the log of the
job, for all failures that are neither a fault of the page nor the refusal of a path.

## The architecture

* **`Job.Blamed`**: a failure is one of those that a batch handles, or `Job.Escapes` has it.
* **`Program.failsBy_renderPage`**, **`Program.failsBy_openOutput`**, **`Program.failsBy_fill`**: the
  parts of a job fail so, one lemma for each program; `Job.escapes_of_leads` puts them together.
-/

namespace BuildBlocks

/-- Whether a failure is the refusal of a path. -/
def Failure.isRefused : Failure → Bool
  | .refused _ _ => true
  | _ => false

namespace Job

/-- **How a job fails otherwise than by a fault or by a refused path**, if these are the accesses
that it has made; what an access is blamed for is the last of them, and a page that comes into it is
what a stretch of them leads to. The path of its page or of an include cannot be resolved; the text of
one of them cannot be read; the value of a placeholder cannot be found or written; the output or the
folder above it has a path that no file can have; or the encoding has no codec, or its codec has no
bytes for the processed page. -/
inductive Escapes (settings : Settings) (options : Options) (job : Job) (log : Script.Log) :
    Failure → Prop where
  | resolve {p : Path} {disk : Disk} {e : Failure} (hlast : log.getLast? = some (.resolve p, disk))
      (h : disk.resolve p = .error e) : Escapes settings options job log e
  | text {p : Path} {disk : Disk} {e : Failure} (hlast : log.getLast? = some (.read p, disk))
      (h : disk.readText settings.encoding p = .error e) : Escapes settings options job log e
  | placeholder {ctx : Context} {page assembled : Text} {stretch : Script.Log} {p : Placeholder}
      {e : Failure} (hstretch : stretch <:+: log)
      (hpage : (Program.renderPage settings ctx 0 page).Leads stretch (.done (.ok assembled)))
      (hcut : .placeholder p ∈ Segment.cut options.delimiters.toList assembled)
      (h : p.resolve (.mapping options.data) = .error e) : Escapes settings options job log e
  | folder (h : Disk.hasBarred job.output.parent = true) :
      Escapes settings options job log .nullInPath
  | output {disk : Disk} {e : Failure} (hlast : log.getLast? = some (.empty job.output, disk))
      (h : disk.writable job.output = .error e) : Escapes settings options job log e
  | encoding {e : Failure} (h : settings.encoding.codec = .error e) :
      Escapes settings options job log e
  | page {page : Text} {stretch : Script.Log} {codec : Codec} {why : EncodeError}
      (hstretch : stretch <:+: log)
      (hpage : (Program.processFile settings options job.input).Leads stretch (.done (.ok page)))
      (hcodec : settings.encoding.codec = .ok codec) (hencode : codec.encode page = .error why) :
      Escapes settings options job log (.unencodable why)

/-- A failure that is a fault or a refused path, or comes about in one of the ways of `Escapes`. -/
def Blamed (settings : Settings) (options : Options) (job : Job) (log : Script.Log) (e : Failure) :
    Prop :=
  e.fault? = none → e.isRefused = false → Escapes settings options job log e

variable {settings : Settings} {options : Options} {job : Job} {log : Script.Log} {e : Failure}

/-- What was done before makes no difference. -/
theorem Escapes.append (h : Escapes settings options job log e) (before : Script.Log) :
    Escapes settings options job (before ++ log) e := by
  have hlast {x : Access × Disk} (hx : log.getLast? = some x) : (before ++ log).getLast? = some x := by
    rw [List.getLast?_append, hx]
    rfl
  have hwithin {stretch : Script.Log} (hstretch : stretch <:+: log) : stretch <:+: before ++ log :=
    hstretch.trans (List.suffix_append before log).isInfix
  cases h with
  | resolve h' h => exact .resolve (hlast h') h
  | text h' h => exact .text (hlast h') h
  | placeholder hstretch hpage hcut h => exact .placeholder (hwithin hstretch) hpage hcut h
  | folder h => exact .folder h
  | output h' h => exact .output (hlast h') h
  | encoding h => exact .encoding h
  | page hstretch hpage hcodec hencode => exact .page (hwithin hstretch) hpage hcodec hencode

theorem Blamed.append (h : Blamed settings options job log e) (before : Script.Log) :
    Blamed settings options job (before ++ log) e := fun hfault hrefused =>
  (h hfault hrefused).append before

theorem Blamed.of_fault {f : Fault} : Blamed settings options job log (.fault f) := nofun

end Job

/-! ## Accesses -/

theorem Disk.isRefused_of_find?_eq_error {disk : Disk} {p : Path} {e : Failure}
    (h : disk.find? p = .error e) : e.isRefused = true := by
  unfold find? at h
  split at h
  · cases h
  · split at h <;> cases h
    rfl

namespace Program

variable {settings : Settings} {options : Options} {job : Job} {α β : Type}

/-- One part of a job after another. -/
theorem failsBy_bind {x : Program α} {f : α → Program β}
    (hx : x.FailsBy (Job.Blamed settings options job))
    (hf : ∀ a log, x.Leads log (.done (.ok a)) → (f a).FailsBy (Job.Blamed settings options job)) :
    (x >>= f).FailsBy (Job.Blamed settings options job) :=
  .bind hx fun a before h => (hf a before h).mono fun _ _ h => h.append before

theorem failsBy_fault (f : Fault) :
    (lift (.error (.fault f)) : Program α).FailsBy (Job.Blamed settings options job) :=
  .lift fun _ h => by cases h; exact .of_fault

theorem failsBy_find (p : Path) : (find p).FailsBy (Job.Blamed settings options job) :=
  .access fun _ _ h _ hrefused => by
    rw [Disk.isRefused_of_find?_eq_error h] at hrefused
    cases hrefused

theorem failsBy_resolve (p : Path) : (resolve p).FailsBy (Job.Blamed settings options job) :=
  .access fun _ _ h _ _ => .resolve rfl h

theorem failsBy_readText (p : Path) :
    (readText settings.encoding p).FailsBy (Job.Blamed settings options job) :=
  .access fun _ _ h _ _ => .text rfl h

/-! ## Pages -/

theorem failsBy_includedFile (ctx : Context) (d : Directive) :
    (includedFile ctx d).FailsBy (Job.Blamed settings options job) := by
  unfold includedFile
  split
  · exact failsBy_fault _
  · refine failsBy_bind ?_ fun path _ _ => failsBy_bind (failsBy_find path) fun found _ _ => ?_
    · unfold includePath
      dsimp only
      split <;> exact failsBy_resolve _
    · split
      · exact .ok path
      · exact failsBy_fault _

section

variable {ctx : Context} {enter : Enter settings ctx}

theorem failsBy_included (henter : ∀ h path content,
      (enter h path content).FailsBy (Job.Blamed settings options job)) (d : Directive) :
    (included settings ctx enter d).FailsBy (Job.Blamed settings options job) := by
  refine failsBy_bind (failsBy_includedFile ctx d) fun path _ _ =>
    failsBy_bind (failsBy_readText path) fun content _ _ => ?_
  dsimp only
  split
  · exact .ok _
  · split
    · exact .ok _
    · split
      · exact failsBy_fault _
      · split
        · exact henter _ path content
        · exact failsBy_fault _

/-- A text that is made of what a program gives. -/
theorem failsBy_map {x : Program Text} (hx : x.FailsBy (Job.Blamed settings options job))
    (f : Text → Text) :
    (do let text ← x; pure (f text) : Program Text).FailsBy (Job.Blamed settings options job) :=
  failsBy_bind hx fun _ _ _ => .ok _

/-- No block type that is always there looks for keys, and of the others only an include looks at the
disk. -/
theorem failsBy_resolved (hregistry : ctx.registry = .initial) (henter : ∀ h path content,
      (enter h path content).FailsBy (Job.Blamed settings options job)) (d : Directive)
    {inner : Program Text} (hinner : inner.FailsBy (Job.Blamed settings options job))
    (isActive : Bool) :
    (resolved settings ctx enter d inner isActive).FailsBy (Job.Blamed settings options job) := by
  unfold resolved
  cases hfind : ctx.registry.find? d.kind with
  | none => exact failsBy_fault _
  | some b =>
    cases isActive with
    | true =>
      simp only [if_true]
      -- what a handler needs of the disk is its body, or the file that it includes
      cases hhandler : b.handler with
      | keepBody => exact hinner
      | conditionalComment => exact .ok _
      | includeFile => exact failsBy_included henter d
      | script | styleSheet =>
        unfold active
        dsimp only
        split
        · exact hinner
        · exact .ok _
      | setAttribute => exact failsBy_map hinner _
      | parts ps =>
        unfold active
        dsimp only
        split
        · exact failsBy_map hinner _
        · exact .ok _
      | missingKey =>
        rw [hregistry] at hfind
        have hbuiltin := Registry.isBuiltin_of_find? hfind
        rw [hhandler] at hbuiltin
        cases hbuiltin
    | false =>
      simp only [Bool.false_eq_true, if_false]
      unfold inactive
      split
      · exact .ok _
      · split
        · exact hinner
        · exact failsBy_map hinner _

/-- A type that nobody registered is a fault. -/
theorem failsBy_unknown {es : List Element} {e : Failure} (h : Element.unknown? ctx es = some e) :
    (lift (.error e) : Program α).FailsBy (Job.Blamed settings options job) := by
  fun_induction Element.unknown? ctx es with
  | case1 => cases h
  | case2 _ _ ih | case3 _ _ ih | case4 _ _ _ _ _ _ _ ih => exact ih h
  | case5 =>
    cases h
    exact failsBy_fault _

mutual

theorem failsBy_render (hregistry : ctx.registry = .initial) (henter : ∀ h path content,
      (enter h path content).FailsBy (Job.Blamed settings options job)) (isActive : Bool) :
    (e : Element) → (render settings ctx enter isActive e).FailsBy (Job.Blamed settings options job)
  | .char c => by
    simp only [render]
    exact .ok _
  | .stray t => by
    simp only [render]
    exact .ok _
  | .block o line children t => by
    simp only [render]
    refine failsBy_resolved hregistry henter _ ?_ isActive
    cases hunknown : Element.unknown? ctx children with
    | some e => exact failsBy_unknown hunknown
    | none => exact failsBy_renderAll hregistry henter _ children

theorem failsBy_renderAll (hregistry : ctx.registry = .initial) (henter : ∀ h path content,
      (enter h path content).FailsBy (Job.Blamed settings options job)) (actives : List Bool) :
    (es : List Element) →
      (renderAll settings ctx enter actives es).FailsBy (Job.Blamed settings options job)
  | [] => by
    simp only [renderAll]
    exact .ok _
  | e :: es => by
    simp only [renderAll]
    exact failsBy_bind (failsBy_render hregistry henter _ e) fun first _ _ =>
      failsBy_bind (failsBy_renderAll hregistry henter _ es) fun rest _ _ => .ok _

end

end

end Program

namespace Job

variable {settings : Settings} {options : Options} {job : Job} {log : Script.Log} {e : Failure}

end Job
end BuildBlocks

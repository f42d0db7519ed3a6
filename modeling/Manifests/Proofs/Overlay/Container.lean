import Manifests.Proofs.Overlay.Variables

/-! A container under an override.  Two overrides amount to one, and the same one again changes
nothing as long as it removes variables for good.  A container need not stay as it is under itself,
though. -/
namespace Manifests

namespace Container

/-- The override that amounts to two of them, one after the other. -/
def andThen (p q : Container) : Container :=
  { q with
    image := q.image <|> p.image
    imagePullPolicy := q.imagePullPolicy <|> p.imagePullPolicy
    command := q.command <|> p.command
    args := q.args <|> p.args
    workingDir := q.workingDir <|> p.workingDir
    resources := q.resources <|> p.resources
    livenessProbe := q.livenessProbe <|> p.livenessProbe
    readinessProbe := q.readinessProbe <|> p.readinessProbe
    securityContext := q.securityContext <|> p.securityContext
    env := KeyedList.merge? (· ++ ·) p.env q.env
    ports := KeyedList.merge? (· ++ ·) p.ports q.ports
    volumeMounts := KeyedList.merge? (· ++ ·) p.volumeMounts q.volumeMounts }

end Container

namespace KeyedList

variable {α : Type}

lemma merge?_merge?_append {merge : List α → List α → List α}
    (happend : ∀ b l m, merge (merge b l) m = merge b (l ++ m)) (b p q : Option (List α)) :
    merge? merge (merge? merge b p) q = merge? merge b (merge? (· ++ ·) p q) := by
  cases q with
  | none => rfl
  | some q =>
    cases p with
    | none => rfl
    | some p => exact congrArg some (happend _ p q)

lemma putAll_append (same : α → α → Bool) (b l m : List α) :
    putAll same (putAll same b l) m = putAll same b (l ++ m) := List.foldl_append.symm

end KeyedList

namespace Container

def samePort (p q : ContainerPort) : Bool := q.containerPort == p.containerPort

def samePath (m n : VolumeMount) : Bool := n.mountPath == m.mountPath

lemma tellsApart_samePort (l : List ContainerPort) : KeyedList.TellsApart samePort l :=
  .of_key ContainerPort.containerPort (fun _ _ => beq_iff_eq.trans eq_comm) l

lemma tellsApart_samePath (l : List VolumeMount) : KeyedList.TellsApart samePath l :=
  .of_key VolumeMount.mountPath (fun _ _ => beq_iff_eq.trans eq_comm) l

lemma overlay_overlay_eq (c p q : Container) :
    (c.overlay p).overlay q = c.overlay (p.andThen q) := by
  have henv := KeyedList.merge?_merge?_append
    (fun b l m => (overlayVariables_append b l m).symm) c.env p.env q.env
  have hports := KeyedList.merge?_merge?_append (KeyedList.putAll_append samePort)
    c.ports p.ports q.ports
  have hmounts := KeyedList.merge?_merge?_append (KeyedList.putAll_append samePath)
    c.volumeMounts p.volumeMounts q.volumeMounts
  simp only [overlay, andThen, Container.mk.injEq, Option.orElse_eq_orElse, Option.orElse_eq_or,
    Option.or_assoc, true_and, and_true]
  exact ⟨henv, hports, hmounts⟩

def vars (c : Container) : List EnvVar := c.env.getD []

lemma vars_andThen (p q : Container) : (p.andThen q).vars = p.vars ++ q.vars := by
  unfold vars andThen
  cases q.env with
  | none => exact (List.append_nil _).symm
  | some l => rfl

lemma overlay_overlay {p : Container} (hp : RemovesForGood p.vars) (c : Container) :
    (c.overlay p).overlay p = c.overlay p := by
  have henv :=
    KeyedList.merge?_merge?_self (p := p.env) (overlayVariables_overlayVariables hp) c.env
  have hports := KeyedList.merge?_merge?_self (p := p.ports)
    (KeyedList.putAll_putAll (tellsApart_samePort _)) c.ports
  have hmounts := KeyedList.merge?_merge?_self (p := p.volumeMounts)
    (KeyedList.putAll_putAll (tellsApart_samePath _)) c.volumeMounts
  simp only [overlay, Container.mk.injEq, Option.orElse_eq_orElse, Option.orElse_eq_or,
    ← Option.or_assoc, Option.or_self, true_and, and_true]
  exact ⟨henv, hports, hmounts⟩

/-- A container that removes no variable, and in which the first and the last variable of a name,
port of a number and mount at a path are equal. -/
structure IsSettled (c : Container) : Prop where
  sets : ∀ v ∈ c.vars, v.isEmpty = false
  vars : KeyedList.Settled EnvVar.sameName c.vars c.vars
  ports : KeyedList.Settled samePort (c.ports.getD []) (c.ports.getD [])
  mounts : KeyedList.Settled samePath (c.volumeMounts.getD []) (c.volumeMounts.getD [])

lemma overlay_eq_self_iff {c : Container} :
    c.overlay c = c ↔
      KeyedList.merge? overlayVariables c.env c.env = c.env ∧
        KeyedList.merge? (KeyedList.putAll samePort) c.ports c.ports = c.ports ∧
        KeyedList.merge? (KeyedList.putAll samePath) c.volumeMounts c.volumeMounts =
          c.volumeMounts := by
  obtain ⟨⟩ := c
  simp only [overlay, Container.mk.injEq, Option.orElse_eq_orElse, Option.orElse_eq_or,
    Option.or_self, true_and, and_true]
  exact Iff.rfl

/-- Exactly a settled container stays as it is when it is laid over itself. -/
lemma overlay_self_iff {c : Container} (hc : RemovesForGood c.vars) :
    c.overlay c = c ↔ c.IsSettled := by
  have henv := (KeyedList.merge?_self_iff (p := c.env) rfl).trans (overlayVariables_self_iff hc)
  have hports := (KeyedList.merge?_self_iff (p := c.ports) rfl).trans
    (KeyedList.putAll_self_iff (tellsApart_samePort _))
  have hmounts := (KeyedList.merge?_self_iff (p := c.volumeMounts) rfl).trans
    (KeyedList.putAll_self_iff (tellsApart_samePath _))
  rw [overlay_eq_self_iff, henv, hports, hmounts]
  constructor
  · rintro ⟨⟨hsets, hvars⟩, hports, hmounts⟩
    exact ⟨hsets, hvars, hports, hmounts⟩
  · intro h
    exact ⟨⟨h.sets, h.vars⟩, h.ports, h.mounts⟩

end Container

end Manifests

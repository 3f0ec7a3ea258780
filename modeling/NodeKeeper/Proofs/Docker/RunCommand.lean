/-
# What the command that runs a container says of it

Names, images, limits and variables of a container are free texts and numbers,
and all of them become arguments of one command:

    fixed words, with the name, the network and the logs at fixed places
    --cpu-quota q     if there is a quota
    --memory mb       if there is a bound
    --env k=v         for each variable
    image

A text may look like any of the flags.  It is not taken for one, because flags
and their values alternate and the image is the last argument: at the place of a
flag stands a word of the command's own, never a text of the container.  A
variable is cut at its first `=`, so nothing is lost unless a key has one.  What
the command leaves out are the linked networks, and only these
(`run_args_eq_iff`).
-/
import Mathlib
import NodeKeeper.Docker.Commands
import NodeKeeper.Proofs.Lists

namespace NodeKeeper.Docker

/-! ## Flags -/

/-- A flag can be read off if no other argument at its place is equal to it. -/
theorem flag_append_inj {name : String} {s s' : Option String} {t t' : List String}
    (ht : t.head? ≠ some name) (ht' : t'.head? ≠ some name)
    (h : flag name s ++ t = flag name s' ++ t') : s = s' ∧ t = t' := by
  cases s with
  | none =>
      cases s' with
      | none => exact ⟨rfl, h⟩
      | some _ => exact absurd (congrArg List.head? h) ht
  | some value =>
      cases s' with
      | none => exact absurd (congrArg List.head? h).symm ht'
      | some _ =>
          obtain ⟨rfl, rfl⟩ := List.cons.inj (List.cons.inj h).2
          exact ⟨rfl, rfl⟩

theorem cpuQuota_inj {q q' : Option Int} (h : q.map toString = q'.map toString) : q = q' :=
  Option.map_injective (fun _ _ hq => Int.repr_inj.1 hq) h

theorem memoryBytes_inj {b b' : Option Int}
    (h : b.map (fun n => toString n ++ "b") = b'.map (fun n => toString n ++ "b")) : b = b' :=
  Option.map_injective (fun _ _ hb => Int.repr_inj.1 ((String.append_left_inj _).1 hb)) h

theorem log_inj {l l' : LogRotation} (hsize : "max-size=" ++ l.maxSize = "max-size=" ++ l'.maxSize)
    (hfiles : "max-file=" ++ toString l.maxFiles.toNat = "max-file=" ++ toString l'.maxFiles.toNat) :
    l = l' := by
  cases l
  cases l'
  rw [LogRotation.mk.injEq]
  exact ⟨(String.append_right_inj _).1 hsize,
    UInt32.toNat_inj.1 (Nat.repr_inj.1 ((String.append_right_inj _).1 hfiles))⟩

/-! ## Variables -/

theorem variable_inj {k k' v v' : String} (hk : '=' ∉ k.toList) (hk' : '=' ∉ k'.toList)
    (h : k ++ "=" ++ v = k' ++ "=" ++ v') : k = k' ∧ v = v' := by
  have hlists := congrArg String.toList h
  simp only [String.toList_append, List.append_assoc] at hlists
  obtain ⟨hkeys, hvalues⟩ := split_at_first hk hk' hlists
  exact ⟨String.toList_inj.1 hkeys, String.toList_inj.1 hvalues⟩

/-- The keys of all variables are without `=`. -/
def KeysPlain (env : Dictionary String) : Prop := ∀ e ∈ env.entries, '=' ∉ e.1.toList

instance (env : Dictionary String) : Decidable (KeysPlain env) :=
  inferInstanceAs (Decidable (∀ e ∈ env.entries, '=' ∉ e.1.toList))

theorem variables_inj {entries entries' : List (String × String)}
    (hkeys : ∀ e ∈ entries, '=' ∉ e.1.toList) (hkeys' : ∀ e ∈ entries', '=' ∉ e.1.toList)
    (h : entries.flatMap (fun (k, v) => ["--env", k ++ "=" ++ v]) =
      entries'.flatMap (fun (k, v) => ["--env", k ++ "=" ++ v])) : entries = entries' := by
  induction entries generalizing entries' with
  | nil =>
      cases entries' with
      | nil => rfl
      | cons e rest' => exact nomatch h
  | cons e rest ih =>
      cases entries' with
      | nil => exact nomatch h
      | cons e' rest' =>
          obtain ⟨hhead, hrest⟩ := List.forall_mem_cons.1 hkeys
          obtain ⟨hhead', hrest'⟩ := List.forall_mem_cons.1 hkeys'
          obtain ⟨hvariable, htail⟩ := List.cons.inj (List.cons.inj h).2
          obtain ⟨hkey, hvalue⟩ := variable_inj hhead hhead' hvariable
          rw [Prod.ext hkey hvalue, ih hrest hrest' htail]

theorem envFlags_inj {env env' : Dictionary String} (hkeys : KeysPlain env)
    (hkeys' : KeysPlain env') (h : envFlags env = envFlags env') : env = env' := by
  cases env
  cases env'
  rw [Dictionary.mk.injEq]
  exact variables_inj hkeys hkeys' h

theorem head?_envFlags_ne {name : String} (hname : name ≠ "--env") (env : Dictionary String) :
    (envFlags env).head? ≠ some name := by
  unfold envFlags
  cases env.entries with
  | nil => exact (Option.some_ne_none _).symm
  | cons e rest => exact fun h => hname (Option.some.inj h).symm

theorem head?_memory_ne {name : String} (hmemory : name ≠ "--memory") (henv : name ≠ "--env")
    (bound : Option String) (env : Dictionary String) :
    (flag "--memory" bound ++ envFlags env).head? ≠ some name := by
  cases bound with
  | none => exact head?_envFlags_ne henv env
  | some bytes => exact fun h => hmemory (Option.some.inj h).symm

/-! ## The whole command -/

/-- The arguments that depend on what the container has. -/
def options (spec : ContainerSpec) : List String :=
  flag "--cpu-quota" (spec.limits.cpuQuota.map toString) ++
    (flag "--memory" (spec.limits.memoryBytes.map fun n => toString n ++ "b") ++ envFlags spec.env)

theorem run_args (program : String) (spec : ContainerSpec) :
    (run program spec).args =
      "run" :: "--detach" :: "--rm" :: "--name" :: spec.name :: "--network" :: spec.network ::
      "--log-driver" :: "json-file" :: "--log-opt" :: ("max-size=" ++ spec.log.maxSize) ::
      "--log-opt" :: ("max-file=" ++ toString spec.log.maxFiles.toNat) ::
      (options spec ++ [spec.image]) := by
  simp only [run, command, options, List.append_assoc, List.cons_append, List.nil_append]

theorem options_inj {spec spec' : ContainerSpec} (hkeys : KeysPlain spec.env)
    (hkeys' : KeysPlain spec'.env) (h : options spec = options spec') :
    spec.limits = spec'.limits ∧ spec.env = spec'.env := by
  obtain ⟨hquota, hrest⟩ := flag_append_inj (head?_memory_ne (by decide) (by decide) _ _)
    (head?_memory_ne (by decide) (by decide) _ _) h
  obtain ⟨hbound, henv⟩ := flag_append_inj (head?_envFlags_ne (by decide) _)
    (head?_envFlags_ne (by decide) _) hrest
  have hlimits : spec.limits = spec'.limits := by
    rw [Limits.mk.injEq]
    exact ⟨cpuQuota_inj hquota, memoryBytes_inj hbound⟩
  exact ⟨hlimits, envFlags_inj hkeys hkeys' henv⟩

/-- **The command that runs a container tells all about it.**  Whatever the texts
look like, the arguments for two containers agree just when the containers agree
in name, image, network, log rotation, quota, bound of memory and variables,
provided that no key of a variable has an `=`. -/
theorem run_args_eq_iff (program program' : String) {spec spec' : ContainerSpec}
    (hkeys : KeysPlain spec.env) (hkeys' : KeysPlain spec'.env) :
    (run program spec).args = (run program' spec').args ↔
      spec.name = spec'.name ∧ spec.image = spec'.image ∧ spec.network = spec'.network ∧
        spec.log = spec'.log ∧ spec.limits.cpuQuota = spec'.limits.cpuQuota ∧
        spec.limits.memoryBytes = spec'.limits.memoryBytes ∧ spec.env = spec'.env := by
  constructor
  · intro h
    rw [run_args, run_args] at h
    simp only [List.cons.injEq, true_and] at h
    obtain ⟨hname, hnetwork, hsize, hfiles, hrest⟩ := h
    obtain ⟨hoptions, himage⟩ := List.append_inj' hrest rfl
    obtain ⟨hlimits, henv⟩ := options_inj hkeys hkeys' hoptions
    exact ⟨hname, (List.cons.inj himage).1, hnetwork, log_inj hsize hfiles,
      congrArg Limits.cpuQuota hlimits, congrArg Limits.memoryBytes hlimits, henv⟩
  · rintro ⟨hname, himage, hnetwork, hlog, hquota, hbound, henv⟩
    simp only [run, command, hname, himage, hnetwork, hlog, hquota, hbound, henv]

/-! Two containers whose texts are flags: one with a bound of memory, and one with
a variable in its place. -/

namespace Disguise

def bounded : ContainerSpec :=
  { name := "--rm", image := "--env", network := "--name", linkedNetworks := [],
    env := .empty, log := ⟨"--log-opt", 10⟩, limits := ⟨none, some 5⟩ }

def dressed : ContainerSpec :=
  { bounded with image := "--memory", env := .ofList [("5b", "--memory")], limits := ⟨none, none⟩ }

end Disguise

/-- They are told apart, and networks to be linked later make no difference. -/
theorem run_args_eq_iff_disguised :
    KeysPlain Disguise.bounded.env ∧ KeysPlain Disguise.dressed.env ∧
    (run "docker" Disguise.bounded).args ≠ (run "docker" Disguise.dressed).args ∧
    (run "docker" Disguise.bounded).args =
      (run "podman" { Disguise.bounded with linkedNetworks := ["vigil-node"] }).args := by
  have hbounded : KeysPlain Disguise.bounded.env := by decide
  have hdressed : KeysPlain Disguise.dressed.env := by decide
  refine ⟨hbounded, hdressed, fun h => ?_, ?_⟩
  · obtain ⟨_, himage, _⟩ := (run_args_eq_iff "docker" "docker" hbounded hdressed).1 h
    exact absurd himage (by decide)
  · exact (run_args_eq_iff "docker" "podman" hbounded hbounded).2
      ⟨rfl, rfl, rfl, rfl, rfl, rfl, rfl⟩

/-- A key with an `=` is cut too early. -/
example : (run "docker" { Disguise.bounded with env := .ofList [("a=b", "c")] }).args =
    (run "docker" { Disguise.bounded with env := .ofList [("a", "b=c")] }).args := by
  decide

end NodeKeeper.Docker

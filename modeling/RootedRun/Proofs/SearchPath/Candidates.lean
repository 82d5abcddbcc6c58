import RootedRun.Proofs.Host.Containment
import RootedRun.Proofs.Host.Stacking
import RootedRun.Proofs.SearchPath.Places

namespace RootedRun

namespace SearchPath

variable {p : SearchPath} {dir : String}

theorem getElem?_candidates {i : Nat} (h : p.dirs[i]? = some dir) (name : String) :
    (p.candidates name)[i]? = some (location dir name) := by
  rw [candidates, List.getElem?_map, h]
  rfl

/-- The root and the root written with more slashes are one place, and so is any directory with more
or less slashes at its end. A host below that has other meanings neither for the path nor for the
program that enters a root only adds its own root. -/
theorem candidates_shape (p : SearchPath) {name : String} (hname : '/' ∉ name.toList) :
    (∀ dir bare, trimSlashes dir = bare ↔
      (∃ n, dir.toList = bare.toList ++ List.replicate n '/') ∧ bare.toList.getLast? ≠ some '/') ∧
    (p.candidates name).length = p.dirs.length ∧
    (∀ (i : Nat) dir c, p.dirs[i]? = some dir → (p.candidates name)[i]? = some c →
      c.toList.head? = some '/' ∧
      (∀ front back, '/' ∉ back.toList →
        (c = front ++ "/" ++ back ↔ front = trimSlashes dir ∧ back = name)) ∧
      ((∀ s ∈ dir.toList, s = '/') → c = "/" ++ name) ∧
      (∀ name', (p.candidates name')[i]? = some c → name' = name) ∧
      ∀ (q : SearchPath) (j : Nat) dir', q.dirs[j]? = some dir' →
        ((q.candidates name)[j]? = some c ↔ trimSlashes dir' = trimSlashes dir)) ∧
    ∀ (h : Host) stat path, h.searchPath = p → (h.place name).run stat = .found path →
      path ∈ p.candidates name ∧ '/' ∈ path.toList ∧
      ∀ args, ((h.qualify ⟨name, args⟩).run stat).value = ⟨path, args⟩ ∧
        (∀ g : Host, g.qualify ⟨path, args⟩ = .done (.quiet ⟨path, args⟩)) ∧
        ∀ below : Stack, below.Leaves path → below.Leaves "/usr/sbin/chroot" →
          Stack.prepare below (h.confine ⟨path, args⟩).value =
            .done (below.confine (h.confine ⟨path, args⟩).value) := by
  refine ⟨fun _ _ => trimSlashes_eq_iff, List.length_map _, ?_, ?_⟩
  · intro i dir c hdir hc
    have hc' := getElem?_candidates hdir name
    obtain rfl : location dir name = c := Option.some.inj (hc'.symm.trans hc)
    refine ⟨head?_of_mem_candidates (List.mem_of_getElem? hc),
      fun front back => location_eq_append_iff hname, location_of_slashes, ?_, ?_⟩
    · intro name' hsame
      rw [getElem?_candidates hdir, Option.some.injEq, location_right_inj] at hsame
      exact hsame
    · intro q j dir' hdir'
      rw [getElem?_candidates hdir', Option.some.injEq, location_left_inj]
  · rintro h stat path rfl hp
    have hmem : path ∈ h.searchPath.candidates name := Host.mem_candidates_of_run_place hp
    obtain ⟨dir, -, hpath⟩ := List.mem_map.1 hmem
    have hq : Qualified path := hpath ▸ qualified_location dir name
    refine ⟨hmem, hq, fun args => ⟨?_, fun g => Host.qualify_of_qualified hq, ?_⟩⟩
    · rw [Host.value_qualify, hp]
      rfl
    · intro below hleaves hchroot
      exact Stack.prepare_eq_confine (Host.qualified_confine hq)
        (Stack.leaves_confine hleaves hchroot) hchroot

/-- A directory made of slashes, two that are one, and a blank name that is found in a root. -/
theorem candidates_shape_blank :
    let p : SearchPath := ⟨["/opt//", "///", "/opt"], by decide⟩
    let h : Host := ⟨.empty, some "/r", p⟩
    let stat : Stat := fun path => if path = "/r/opt/" then .ok .other else .error (.os .notFound)
    let below : Stack := [⟨.ofList [("tool", "other")], none, p⟩]
    '/' ∉ "".toList ∧ p.candidates "" = ["/opt/", "/", "/opt/"] ∧
    (∀ front back, '/' ∉ back.toList → ("/" = front ++ "/" ++ back ↔ front = "" ∧ back = "")) ∧
    (∀ name', (p.candidates name')[2]? = some "/opt/" → name' = "") ∧
    trimSlashes "/opt//" = trimSlashes "/opt" ∧
    (h.place "").run stat = .found "/opt/" ∧
    ((h.qualify ⟨"", ["-v"]⟩).run stat).value = ⟨"/opt/", ["-v"]⟩ ∧
    below.Leaves "/opt/" ∧ below.Leaves "/usr/sbin/chroot" ∧
    Stack.prepare below ⟨"/usr/sbin/chroot", ["/r", "/opt/", "-v"]⟩ =
      .done (.quiet ⟨"/usr/sbin/chroot", ["/r", "/opt/", "-v"]⟩) := by
  intro p h stat below
  have hname : '/' ∉ "".toList := by decide
  have hcandidates : p.candidates "" = ["/opt/", "/", "/opt/"] := by decide +kernel
  have hplace : (h.place "").run stat = .found "/opt/" := by decide +kernel
  have hleaves : below.Leaves "/opt/" := List.forall_mem_singleton.2 (by decide +kernel)
  have hchroot : below.Leaves "/usr/sbin/chroot" := List.forall_mem_singleton.2 (by decide +kernel)
  obtain ⟨-, -, hshape, hfound⟩ := candidates_shape p hname
  obtain ⟨-, hcut, -, -, -⟩ := hshape 1 "///" "/" rfl (by rw [hcandidates]; rfl)
  obtain ⟨-, -, -, hnames, hdirs⟩ := hshape 2 "/opt" "/opt/" rfl (by rw [hcandidates]; rfl)
  obtain ⟨-, -, hargs⟩ := hfound h stat "/opt/" rfl hplace
  obtain ⟨hvalue, -, hbelow⟩ := hargs ["-v"]
  exact ⟨hname, hcandidates, hcut, hnames, (hdirs p 0 "/opt//" rfl).1 (by rw [hcandidates]; rfl),
    hplace, hvalue, hleaves, hchroot, hbelow below hleaves hchroot⟩

end SearchPath

end RootedRun

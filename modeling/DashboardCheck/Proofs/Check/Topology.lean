import DashboardCheck.Check.Topology
import Mathlib.Data.List.Induction

/-!
# Addresses by status

The buckets of a topology ascend by status, and an address that is added comes last in its bucket.
So each bucket has the addresses that answered with its status, in the order of the probes, and no
probe is in more or fewer than one. Two buckets of the right sizes are therefore all that there is,
and what is said about other buckets has the addresses of all probes in it.
-/
namespace DashboardCheck.Topology

def Ascending (buckets : List (Nat × List String)) : Prop :=
  (buckets.map Prod.fst).Pairwise (· < ·)

def bucket (buckets : List (Nat × List String)) (status : Nat) : List String :=
  ((buckets.find? fun b => b.1 == status).map Prod.snd).getD []

variable {buckets : List (Nat × List String)} {status : Nat} {address : String}

theorem bucket_cons (s : Nat) (addresses : List String) :
    bucket ((s, addresses) :: buckets) status =
      if s = status then addresses else bucket buckets status := by
  by_cases h : s = status
  · simp [bucket, h]
  · simp [bucket, h]

theorem bucket_eq_nil (h : ∀ s ∈ buckets.map Prod.fst, status < s) :
    bucket buckets status = [] := by
  induction buckets with
  | nil => rfl
  | cons b rest ih =>
    obtain ⟨s, addresses⟩ := b
    have hlt : status < s := h s (by simp)
    rw [bucket_cons, if_neg (by omega), ih fun s' hs' => h s' (List.mem_cons_of_mem s hs')]

theorem mem_statuses_add {s : Nat} (h : s ∈ (add status address buckets).map Prod.fst) :
    s = status ∨ s ∈ buckets.map Prod.fst := by
  induction buckets with
  | nil => simpa [add] using h
  | cons b rest ih =>
    obtain ⟨s', addresses⟩ := b
    rw [add] at h
    split at h
    · simpa using h
    · split at h
      · exact .inr (by simpa using h)
      · rcases List.mem_cons.mp h with rfl | hrest
        · exact .inr (by simp)
        · rcases ih hrest with hs | hs
          · exact .inl hs
          · exact .inr (List.mem_cons_of_mem _ hs)

theorem ascending_add (h : Ascending buckets) : Ascending (add status address buckets) := by
  induction buckets with
  | nil => simp [add, Ascending]
  | cons b rest ih =>
    obtain ⟨s, addresses⟩ := b
    obtain ⟨hhead, hrest⟩ := List.pairwise_cons.mp h
    rw [add]
    split
    · next hlt =>
      refine List.pairwise_cons.mpr ⟨?_, h⟩
      intro s' hs'
      rcases List.mem_cons.mp hs' with rfl | hmem
      · exact hlt
      · exact Nat.lt_trans hlt (hhead s' hmem)
    · next hge =>
      split
      · exact h
      · next hne =>
        refine List.pairwise_cons.mpr ⟨?_, ih hrest⟩
        intro s' hs'
        rcases mem_statuses_add hs' with rfl | hmem
        · omega
        · exact hhead s' hmem

/-- Adding an address puts it at the end of its bucket and leaves the others as they are. -/
theorem bucket_add (h : Ascending buckets) (s : Nat) :
    bucket (add status address buckets) s =
      bucket buckets s ++ if status = s then [address] else [] := by
  induction buckets with
  | nil =>
    rw [add, bucket_cons]
    rfl
  | cons b rest ih =>
    obtain ⟨s', addresses⟩ := b
    obtain ⟨hhead, hrest⟩ := List.pairwise_cons.mp h
    rw [add]
    split
    · next hlt =>
      rw [bucket_cons]
      -- the new entry stands before all greater ones, so none of its status can follow
      by_cases hs : status = s
      · subst hs
        have hnone : bucket ((s', addresses) :: rest) status = [] := by
          refine bucket_eq_nil fun s'' hs'' => ?_
          rcases List.mem_cons.mp hs'' with rfl | hmem
          · exact hlt
          · exact Nat.lt_trans hlt (hhead s'' hmem)
        simp [hnone]
      · simp [hs]
    · split
      · next heq =>
        subst heq
        rw [bucket_cons, bucket_cons]
        by_cases hs : status = s <;> simp [hs]
      · next hne =>
        rw [bucket_cons, bucket_cons, ih hrest]
        by_cases hs : s' = s
        · subst hs
          simp [hne]
        · simp [hs]

/-- Buckets have addresses in them. -/
theorem filled_add (h : ∀ b ∈ buckets, b.2 ≠ []) : ∀ b ∈ add status address buckets, b.2 ≠ [] := by
  induction buckets with
  | nil => simp [add]
  | cons b rest ih =>
    obtain ⟨s, addresses⟩ := b
    obtain ⟨hhead, hrest⟩ := List.forall_mem_cons.mp h
    rw [add]
    split
    · exact List.forall_mem_cons.mpr ⟨by simp, h⟩
    · split
      · exact List.forall_mem_cons.mpr ⟨by simp, hrest⟩
      · exact List.forall_mem_cons.mpr ⟨hhead, ih hrest⟩

def size : List (Nat × List String) → Nat
  | [] => 0
  | (_, addresses) :: rest => addresses.length + size rest

theorem size_add : size (add status address buckets) = size buckets + 1 := by
  induction buckets with
  | nil => rfl
  | cons b rest ih =>
    obtain ⟨s, addresses⟩ := b
    rw [add]
    split
    · simp only [size, List.length_singleton]
      omega
    · split
      · simp only [size, List.length_append, List.length_singleton]
        omega
      · simp only [size, ih]
        omega

/-- In order, what stands under a status is the bucket of the status. -/
theorem Ascending.bucket_of_mem {addresses : List String} (h : Ascending buckets)
    (hmem : (status, addresses) ∈ buckets) : bucket buckets status = addresses := by
  induction buckets with
  | nil => cases hmem
  | cons b rest ih =>
    obtain ⟨s, addresses'⟩ := b
    obtain ⟨hhead, hrest⟩ := List.pairwise_cons.mp h
    rw [bucket_cons]
    rcases List.mem_cons.mp hmem with heq | hmem
    · obtain ⟨rfl, rfl⟩ := Prod.mk.inj heq
      rw [if_pos rfl]
    · have hlt : s < status := hhead status (List.mem_map.mpr ⟨_, hmem, rfl⟩)
      rw [if_neg (by omega), ih hrest hmem]

theorem mem_of_bucket_ne_nil (h : bucket buckets status ≠ []) :
    (status, bucket buckets status) ∈ buckets := by
  induction buckets with
  | nil => exact absurd rfl h
  | cons b rest ih =>
    obtain ⟨s, addresses⟩ := b
    rw [bucket_cons] at h ⊢
    by_cases hs : s = status
    · rw [if_pos hs, hs]
      exact List.mem_cons_self
    · rw [if_neg hs] at h ⊢
      exact List.mem_cons_of_mem _ (ih h)

def answered (probes : List (String × Nat)) (status : Nat) : List String :=
  (probes.filter fun probe => probe.2 = status).map Prod.fst

variable {probes : List (String × Nat)}

theorem length_answered (probes : List (String × Nat)) (status : Nat) :
    (answered probes status).length = probes.countP fun probe => probe.2 = status := by
  rw [answered, List.length_map, List.countP_eq_length_filter]

theorem mem_answered {probe : String × Nat} (h : probe ∈ probes) :
    probe.1 ∈ answered probes probe.2 :=
  List.mem_map_of_mem (List.mem_filter.mpr ⟨h, by simp⟩)

/-- The buckets have the addresses of these probes in them, each in its place, and no others. -/
structure Holds (buckets : List (Nat × List String)) (probes : List (String × Nat)) : Prop where
  ascending : Ascending buckets
  filled : ∀ b ∈ buckets, b.2 ≠ []
  bucket : ∀ status, bucket buckets status = answered probes status
  size : size buckets = probes.length

theorem Holds.add (h : Holds buckets probes) (probe : String × Nat) :
    Holds (add probe.2 probe.1 buckets) (probes ++ [probe]) where
  ascending := ascending_add h.ascending
  filled := filled_add h.filled
  bucket status := by
    rw [bucket_add h.ascending, h.bucket]
    by_cases hstatus : probe.2 = status <;> simp [answered, hstatus]
  size := by
    rw [size_add, h.size, List.length_append, List.length_singleton]

theorem holds_ofProbes (probes : List (String × Nat)) : Holds (ofProbes probes).buckets probes := by
  induction probes using List.reverseRecOn with
  | nil => exact ⟨List.Pairwise.nil, by simp [ofProbes], fun _ => rfl, rfl⟩
  | append_singleton earlier probe ih =>
    rw [ofProbes, List.foldl_append]
    exact ih.add probe

/-- The addresses under a status are those that answered with it, in the order of the probes. -/
theorem addresses_ofProbes (probes : List (String × Nat)) (s : Nat) :
    (ofProbes probes).addresses s = (probes.filter fun probe => probe.2 = s).map Prod.fst :=
  (holds_ofProbes probes).bucket s

/-- A bucket is what answered with its status, and there is one exactly if anything did. -/
theorem Holds.mem_iff (h : Holds buckets probes) {addresses : List String} :
    (status, addresses) ∈ buckets ↔ addresses = answered probes status ∧ addresses ≠ [] := by
  constructor
  · intro hmem
    exact ⟨by rw [← h.bucket, h.ascending.bucket_of_mem hmem], h.filled _ hmem⟩
  · rintro ⟨rfl, hsome⟩
    rw [← h.bucket] at hsome ⊢
    exact mem_of_bucket_ne_nil hsome

/-- Health in numbers: one unit is active and all others redirect. -/
theorem isHealthy_iff (probes : List (String × Nat)) :
    (ofProbes probes).isHealthy = true ↔
      (probes.countP fun probe => probe.2 = active) = 1 ∧
        (probes.countP fun probe => probe.2 = redirecting) = probes.length - 1 := by
  have haddresses : ∀ status, (ofProbes probes).addresses status = answered probes status :=
    addresses_ofProbes probes
  rw [isHealthy, Bool.and_eq_true, beq_iff_eq, beq_iff_eq, haddresses, haddresses, length_answered,
    length_answered]
  rfl

/-- One probe found the active unit, and all others units that redirect. -/
theorem exists_split_iff :
    (probes.countP fun probe => probe.2 = active) = 1 ∧
        (probes.countP fun probe => probe.2 = redirecting) = probes.length - 1 ↔
      ∃ before address after, probes = before ++ (address, active) :: after ∧
        ∀ probe ∈ before ++ after, probe.2 = redirecting := by
  constructor
  · rintro ⟨hone, hothers⟩
    obtain ⟨⟨address, status⟩, hmem, hstatus⟩ := List.countP_pos_iff.mp (by rw [hone]; omega)
    obtain rfl : status = active := of_decide_eq_true hstatus
    obtain ⟨before, after, rfl⟩ := List.append_of_mem hmem
    refine ⟨before, address, after, rfl, ?_⟩
    have hcount : ((before ++ after).countP fun probe => probe.2 = redirecting) =
        (before ++ after).length := by
      simp [List.countP_append, active, redirecting] at hothers ⊢
      omega
    exact fun probe hprobe => of_decide_eq_true (List.countP_eq_length.mp hcount probe hprobe)
  · rintro ⟨before, address, after, rfl, hothers⟩
    have hnone : ((before ++ after).countP fun probe => probe.2 = active) = 0 := by
      rw [List.countP_eq_zero]
      intro probe hprobe
      simp [hothers probe hprobe, active, redirecting]
    have hall : ((before ++ after).countP fun probe => probe.2 = redirecting) =
        (before ++ after).length := by
      rw [List.countP_eq_length]
      intro probe hprobe
      simp [hothers probe hprobe]
    rw [List.countP_append] at hnone hall
    rw [List.countP_append, List.countP_append, List.countP_cons_of_pos (by simp),
      List.countP_cons_of_neg (by simp [active, redirecting]), List.length_append, List.length_cons]
    rw [List.length_append] at hall
    omega

theorem verify_eq_ok_iff (t : Topology) : t.verify = .ok () ↔ t.isHealthy = true := by
  rw [verify]
  by_cases h : t.isHealthy = true <;> simp [h]

theorem eq_complaint_of_verify {t : Topology} {message : String} (h : t.verify = .error message) :
    message = t.complaint := by
  rw [verify] at h
  split at h
  · cases h
  · exact (Except.error.inj h).symm

/-- Whatever is complained about, the topology is told. -/
theorem text_infix_complaint (t : Topology) : t.text.toList <:+: t.complaint.toList := by
  rw [complaint, String.toList_append]
  exact (List.suffix_append _ _).isInfix

def bucketText (b : Nat × List String) : String := s!"{b.1}: [" ++ Text.join ", " b.2 ++ "]"

theorem text_eq (t : Topology) :
    t.text = "\x7b" ++ Text.join ", " (t.buckets.map bucketText) ++ "\x7d" := rfl

/-- The text of a topology has each address of it. -/
theorem address_infix_text {t : Topology} {addresses : List String}
    (hbucket : (status, addresses) ∈ t.buckets) (haddress : address ∈ addresses) :
    address.toList <:+: t.text.toList := by
  have hlisted : address.toList <:+: (bucketText (status, addresses)).toList := by
    rw [bucketText, String.toList_append, String.toList_append]
    refine (Text.isInfix_join haddress ", ").trans ?_
    exact (List.suffix_append _ _).isInfix.trans (List.prefix_append _ _).isInfix
  have hpart : bucketText (status, addresses) ∈ t.buckets.map bucketText :=
    List.mem_map_of_mem hbucket
  refine hlisted.trans ((Text.isInfix_join hpart ", ").trans ?_)
  rw [text_eq, String.toList_append, String.toList_append]
  exact (List.suffix_append _ _).isInfix.trans (List.prefix_append _ _).isInfix

/-- More than one active unit is told with their number, and each in turn. -/
theorem many_prefix_complaint {t : Topology} (h : 1 < (t.addresses active).length) :
    (s!"{(t.addresses active).length} units answered 200: " ++
      Text.join ", " (t.addresses active)).toList <+: t.complaint.toList := by
  have hstart : ∀ front back : String, front.toList <+: (front ++ back).toList := by
    intro front back
    rw [String.toList_append]
    exact List.prefix_append _ _
  rw [complaint, if_pos h]
  exact (hstart _ _).trans (hstart _ _)

/-- The buckets are a partition of the probes by status, in their order. All is well exactly if one
probe found the active unit and every other one a unit that redirects, whatever the order of the
probes. Otherwise the message has the text of the topology, and with it the address of each probe;
of several active units it has the number, and their addresses in the order of the probes. -/
theorem verdict_exact (probes : List (String × Nat)) :
    (ofProbes probes).unitCount = probes.length ∧
    (∀ status addresses, (status, addresses) ∈ (ofProbes probes).buckets ↔
      addresses = answered probes status ∧ addresses ≠ []) ∧
    ((ofProbes probes).buckets.map Prod.fst).Pairwise (· < ·) ∧
    size (ofProbes probes).buckets = (ofProbes probes).unitCount ∧
    ((ofProbes probes).verify = .ok () ↔
      ∃ before address after, probes = before ++ (address, 200) :: after ∧
        ∀ probe ∈ before ++ after, probe.2 = 303) ∧
    (∀ probes' : List (String × Nat), probes'.Perm probes →
      ((ofProbes probes').verify = .ok () ↔ (ofProbes probes).verify = .ok ())) ∧
    ∀ message, (ofProbes probes).verify = .error message →
      (ofProbes probes).text.toList <:+: message.toList ∧
      (∀ probe ∈ probes, probe.1.toList <:+: (ofProbes probes).text.toList) ∧
      (1 < (answered probes 200).length →
        (s!"{(answered probes 200).length} units answered 200: " ++
          Text.join ", " (answered probes 200)).toList <:+: message.toList) := by
  have hholds := holds_ofProbes probes
  refine ⟨rfl, fun status addresses => hholds.mem_iff, hholds.ascending, hholds.size, ?_, ?_, ?_⟩
  · rw [verify_eq_ok_iff, isHealthy_iff, exists_split_iff]
    rfl
  · intro probes' hperm
    rw [verify_eq_ok_iff, verify_eq_ok_iff, isHealthy_iff, isHealthy_iff, hperm.countP_eq,
      hperm.countP_eq, hperm.length_eq]
  · intro message hmessage
    rw [eq_complaint_of_verify hmessage]
    refine ⟨text_infix_complaint _, fun probe hprobe => ?_, fun hmany => ?_⟩
    · have hlisted := mem_answered hprobe
      have hbucket : (probe.2, answered probes probe.2) ∈ (ofProbes probes).buckets :=
        hholds.mem_iff.mpr ⟨rfl, List.ne_nil_of_mem hlisted⟩
      exact address_infix_text hbucket hlisted
    · have hactive : (ofProbes probes).addresses active = answered probes 200 :=
        addresses_ofProbes probes active
      rw [← hactive] at hmany ⊢
      exact (many_prefix_complaint hmany).isInfix

end DashboardCheck.Topology

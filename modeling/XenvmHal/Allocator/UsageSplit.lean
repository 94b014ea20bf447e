import XenvmHal.Allocator.Gralloc1Hal

/-!
# Splitting a usage

Gralloc1 has separate usages for the producer and the consumer of a buffer, so a `BufferUsage` is
split in two. Outside the two CPU fields a usage is a set of flags, and each half is the usage
under a mask. The CPU fields are numbers: a field of a half is the value that one number of the
usage stands for, or empty.

`toProducerUsage_eq` and `toConsumerUsage_eq` bring the two functions into this form, flags under a
mask and decoded fields. What a half has under another mask is then a matter of masks.
-/

namespace XenvmHal

/-! ### Masks -/

section Masks

variable (a b c m : UInt64)

theorem or_and_mask : (a ||| b) &&& m = (a &&& m) ||| (b &&& m) :=
  UInt64.toBitVec_inj.1 BitVec.and_or_distrib_right

theorem and_or_mask : (a &&& b) ||| (a &&& c) = a &&& (b ||| c) :=
  UInt64.toBitVec_inj.1 BitVec.and_or_distrib_left.symm

/-- A single bit of a usage is set or not. -/
theorem and_gpuDataBuffer (h : a &&& BufferUsage.gpuDataBuffer ≠ 0) :
    a &&& BufferUsage.gpuDataBuffer = BufferUsage.gpuDataBuffer := by
  have hbit : (BufferUsage.gpuDataBuffer).toBitVec = BitVec.twoPow 64 24 := by decide
  have hand := BitVec.and_twoPow a.toBitVec 24
  refine UInt64.toBitVec_inj.1 ?_
  rw [UInt64.toBitVec_and, hbit, hand]
  split
  case isTrue => rfl
  case isFalse hclear =>
    refine absurd (UInt64.toBitVec_inj.1 ?_) h
    rw [UInt64.toBitVec_and, hbit, hand, if_neg hclear]
    rfl

end Masks

namespace Gralloc1Hal

/-- The flags of a usage: everything outside the CPU fields. -/
abbrev flagMask : UInt64 :=
  ~~~(BufferUsage.cpuReadMask ||| BufferUsage.cpuWriteMask)

/-- What a CPU field grants, where `rarely` and `often` are the numbers that ask for something. -/
def cpuAccess (rarely often grantRarely grantOften field : UInt64) : UInt64 :=
  if field = rarely then grantRarely else if field = often then grantOften else 0

/-- The read field of the producer half. -/
def producerRead (usage : UInt64) : UInt64 :=
  cpuAccess BufferUsage.cpuReadRarely BufferUsage.cpuReadOften Gralloc1Usage.producerCpuRead
    Gralloc1Usage.producerCpuReadOften (usage &&& BufferUsage.cpuReadMask)

/-- The write field of the producer half. -/
def producerWrite (usage : UInt64) : UInt64 :=
  cpuAccess BufferUsage.cpuWriteRarely BufferUsage.cpuWriteOften Gralloc1Usage.producerCpuWrite
    Gralloc1Usage.producerCpuWriteOften (usage &&& BufferUsage.cpuWriteMask)

/-- The read field of the consumer half. -/
def consumerRead (usage : UInt64) : UInt64 :=
  cpuAccess BufferUsage.cpuReadRarely BufferUsage.cpuReadOften Gralloc1Usage.consumerCpuRead
    Gralloc1Usage.consumerCpuReadOften (usage &&& BufferUsage.cpuReadMask)

variable {rarely often grantRarely grantOften field m : UInt64}

/-- Access that lies outside a mask. -/
theorem cpuAccess_and_of_disjoint (hrarely : grantRarely &&& m = 0)
    (hoften : grantOften &&& m = 0) :
    cpuAccess rarely often grantRarely grantOften field &&& m = 0 := by
  rw [cpuAccess]
  split_ifs
  · exact hrarely
  · exact hoften
  · exact UInt64.zero_and

/-- Access that lies inside a mask. -/
theorem cpuAccess_and_of_subset (hrarely : grantRarely &&& m = grantRarely)
    (hoften : grantOften &&& m = grantOften) :
    cpuAccess rarely often grantRarely grantOften field &&& m =
      cpuAccess rarely often grantRarely grantOften field := by
  rw [cpuAccess]
  split_ifs
  · exact hrarely
  · exact hoften
  · exact UInt64.zero_and

/-! ### The two halves -/

/-- **The producer half**: flags and both CPU fields. -/
theorem toProducerUsage_eq (usage : UInt64) :
    toProducerUsage usage =
      usage &&& (flagMask &&& ~~~BufferUsage.gpuDataBuffer) ||| producerWrite usage |||
        producerRead usage := by
  have hmask : ~~~(BufferUsage.cpuReadMask ||| BufferUsage.cpuWriteMask |||
      BufferUsage.gpuDataBuffer) = flagMask &&& ~~~BufferUsage.gpuDataBuffer := by decide
  simp only [toProducerUsage, hmask, producerWrite, producerRead, cpuAccess]
  split_ifs <;> simp only [UInt64.or_zero]

/-- **The consumer half**: flags and the read field. -/
theorem toConsumerUsage_eq (usage : UInt64) :
    toConsumerUsage usage =
      usage &&& (flagMask &&& ~~~BufferUsage.sensorDirectData) ||| consumerRead usage := by
  have hread : toConsumerUsage usage =
      usage &&& ~~~(BufferUsage.cpuReadMask ||| BufferUsage.cpuWriteMask |||
        BufferUsage.sensorDirectData ||| BufferUsage.gpuDataBuffer) ||| consumerRead usage |||
        (usage &&& BufferUsage.gpuDataBuffer) := by
    simp only [toConsumerUsage, consumerRead, cpuAccess]
    by_cases hgpu : usage &&& BufferUsage.gpuDataBuffer = 0
    · rw [hgpu, if_neg (not_not.2 rfl), UInt64.or_zero]
      split_ifs <;> simp only [UInt64.or_zero]
    · rw [if_pos hgpu, and_gpuDataBuffer usage hgpu]
      split_ifs <;> simp only [UInt64.or_zero]
  -- the bit that is filtered out and set again was never lost
  have hmask : ~~~(BufferUsage.cpuReadMask ||| BufferUsage.cpuWriteMask |||
        BufferUsage.sensorDirectData ||| BufferUsage.gpuDataBuffer) ||| BufferUsage.gpuDataBuffer =
      flagMask &&& ~~~BufferUsage.sensorDirectData := by decide
  rw [hread, UInt64.or_assoc, UInt64.or_comm (consumerRead usage), ← UInt64.or_assoc, and_or_mask,
    hmask]

/-! ### What the halves have in common with the usage -/

/-- **A faithful split** of a usage into two halves. -/
structure SplitsUsage (usage producer consumer : UInt64) : Prop where
  flags : (producer ||| consumer) &&& flagMask = usage &&& flagMask
  producer_flags :
    producer &&& flagMask = usage &&& flagMask &&& ~~~BufferUsage.gpuDataBuffer
  consumer_flags :
    consumer &&& flagMask = usage &&& flagMask &&& ~~~BufferUsage.sensorDirectData
  consumer_write : consumer &&& BufferUsage.cpuWriteMask = 0
  producer_read : producer &&& BufferUsage.cpuReadMask = producerRead usage
  consumer_read : consumer &&& BufferUsage.cpuReadMask = consumerRead usage
  producer_write : producer &&& BufferUsage.cpuWriteMask = producerWrite usage

theorem toProducerUsage_and_flagMask (usage : UInt64) :
    toProducerUsage usage &&& flagMask =
      usage &&& flagMask &&& ~~~BufferUsage.gpuDataBuffer := by
  have hmask : flagMask &&& ~~~BufferUsage.gpuDataBuffer &&& flagMask =
      flagMask &&& ~~~BufferUsage.gpuDataBuffer := by decide
  rw [toProducerUsage_eq, or_and_mask, or_and_mask, producerWrite, producerRead,
    cpuAccess_and_of_disjoint (by decide) (by decide),
    cpuAccess_and_of_disjoint (by decide) (by decide), UInt64.or_zero, UInt64.or_zero,
    UInt64.and_assoc, hmask, UInt64.and_assoc]

theorem toConsumerUsage_and_flagMask (usage : UInt64) :
    toConsumerUsage usage &&& flagMask =
      usage &&& flagMask &&& ~~~BufferUsage.sensorDirectData := by
  have hmask : flagMask &&& ~~~BufferUsage.sensorDirectData &&& flagMask =
      flagMask &&& ~~~BufferUsage.sensorDirectData := by decide
  rw [toConsumerUsage_eq, or_and_mask, consumerRead,
    cpuAccess_and_of_disjoint (by decide) (by decide), UInt64.or_zero, UInt64.and_assoc, hmask,
    UInt64.and_assoc]

/-- The CPU fields of the producer half. -/
theorem toProducerUsage_and (usage : UInt64)
    (hmask : flagMask &&& ~~~BufferUsage.gpuDataBuffer &&& m = 0) :
    toProducerUsage usage &&& m = (producerWrite usage &&& m) ||| (producerRead usage &&& m) := by
  rw [toProducerUsage_eq, or_and_mask, or_and_mask, UInt64.and_assoc, hmask, UInt64.and_zero,
    UInt64.zero_or]

/-- The CPU fields of the consumer half. -/
theorem toConsumerUsage_and (usage : UInt64)
    (hmask : flagMask &&& ~~~BufferUsage.sensorDirectData &&& m = 0) :
    toConsumerUsage usage &&& m = consumerRead usage &&& m := by
  rw [toConsumerUsage_eq, or_and_mask, UInt64.and_assoc, hmask, UInt64.and_zero, UInt64.zero_or]

/-- **The two functions split every usage**: no flag is lost or invented, and CPU access is granted
exactly where it is asked for. -/
theorem usage_splits (usage : UInt64) :
    SplitsUsage usage (toProducerUsage usage) (toConsumerUsage usage) where
  flags := by
    have hmask : ~~~BufferUsage.gpuDataBuffer ||| ~~~BufferUsage.sensorDirectData = -1 := by decide
    rw [or_and_mask, toProducerUsage_and_flagMask, toConsumerUsage_and_flagMask, and_or_mask, hmask,
      UInt64.and_neg_one]
  producer_flags := toProducerUsage_and_flagMask usage
  consumer_flags := toConsumerUsage_and_flagMask usage
  consumer_write := by
    rw [toConsumerUsage_and usage (by decide), consumerRead,
      cpuAccess_and_of_disjoint (by decide) (by decide)]
  producer_read := by
    rw [toProducerUsage_and usage (by decide), producerWrite, producerRead,
      cpuAccess_and_of_disjoint (by decide) (by decide),
      cpuAccess_and_of_subset (by decide) (by decide), UInt64.zero_or]
  consumer_read := by
    rw [toConsumerUsage_and usage (by decide), consumerRead,
      cpuAccess_and_of_subset (by decide) (by decide)]
  producer_write := by
    rw [toProducerUsage_and usage (by decide), producerWrite, producerRead,
      cpuAccess_and_of_subset (by decide) (by decide),
      cpuAccess_and_of_disjoint (by decide) (by decide), UInt64.or_zero]

end Gralloc1Hal

end XenvmHal

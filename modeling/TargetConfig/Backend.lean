import TargetConfig.Triple

/-! # Backends and registries

A backend generates code for one architecture family. A registry is the list of the backends that
are linked in; it finds a backend by the architecture of a triple. What a lookup gives is a handle,
which names the backend and the triple and does not hold the backend itself.
-/

namespace TargetConfig

structure Backend where
  name : String
  description : String
  arch : Arch
  deriving DecidableEq, Repr

/-- The result of a lookup: the backend's name and description, and the triple looked up. -/
structure Handle where
  name : String
  description : String
  triple : String
  deriving DecidableEq, Repr

/-- Every backend there is, one for each known architecture. -/
def Backend.all : List Backend := [
  ⟨"aarch64", "AArch64 (little endian)", .aarch64⟩,
  ⟨"aarch64_be", "AArch64 (big endian)", .aarch64be⟩,
  ⟨"aarch64_32", "AArch64 (little endian ILP32)", .aarch64ilp32⟩,
  ⟨"arm", "ARM", .arm⟩,
  ⟨"armeb", "ARM (big endian)", .armeb⟩,
  ⟨"thumb", "Thumb", .thumb⟩,
  ⟨"thumbeb", "Thumb (big endian)", .thumbeb⟩,
  ⟨"x86", "32-bit X86: Pentium-Pro and above", .x86⟩,
  ⟨"x86-64", "64-bit X86: EM64T and AMD64", .x86_64⟩,
  ⟨"mips", "MIPS (32-bit big endian)", .mips⟩,
  ⟨"mipsel", "MIPS (32-bit little endian)", .mipsel⟩,
  ⟨"mips64", "MIPS (64-bit big endian)", .mips64⟩,
  ⟨"mips64el", "MIPS (64-bit little endian)", .mips64el⟩,
  ⟨"ppc32", "PowerPC 32", .ppc⟩,
  ⟨"ppc32le", "PowerPC 32 LE", .ppcle⟩,
  ⟨"ppc64", "PowerPC 64", .ppc64⟩,
  ⟨"ppc64le", "PowerPC 64 LE", .ppc64le⟩,
  ⟨"riscv32", "32-bit RISC-V", .riscv32⟩,
  ⟨"riscv64", "64-bit RISC-V", .riscv64⟩,
  ⟨"sparc", "Sparc", .sparc⟩,
  ⟨"sparcel", "Sparc LE", .sparcel⟩,
  ⟨"sparcv9", "Sparc V9", .sparcv9⟩,
  ⟨"systemz", "SystemZ", .systemz⟩,
  ⟨"wasm32", "WebAssembly 32-bit", .wasm32⟩,
  ⟨"wasm64", "WebAssembly 64-bit", .wasm64⟩,
  ⟨"hexagon", "Hexagon", .hexagon⟩,
  ⟨"bpfel", "BPF (little endian)", .bpfel⟩,
  ⟨"bpfeb", "BPF (big endian)", .bpfeb⟩,
  ⟨"nvptx", "NVIDIA PTX 32-bit", .nvptx⟩,
  ⟨"nvptx64", "NVIDIA PTX 64-bit", .nvptx64⟩,
  ⟨"amdgcn", "AMD GCN GPUs", .amdgcn⟩,
  ⟨"r600", "AMD GPUs HD2XXX-HD6XXX", .r600⟩,
  ⟨"avr", "Atmel AVR Microcontroller", .avr⟩,
  ⟨"msp430", "MSP430 [experimental]", .msp430⟩,
  ⟨"loongarch32", "32-bit LoongArch", .loongarch32⟩,
  ⟨"loongarch64", "64-bit LoongArch", .loongarch64⟩]

/-- The backends that are linked in, in the order in which they are listed and tried. -/
structure Registry where
  backends : List Backend
  deriving DecidableEq, Repr

namespace Registry

def full : Registry := ⟨Backend.all⟩

/-- The registry with the backends of the given architectures only. The order of the backends stays
the same, and an architecture given twice counts once. -/
def only (archs : List Arch) : Registry := ⟨Backend.all.filter (archs.contains ·.arch)⟩

/-- The backend for the architecture of a triple. The unknown architecture has none. -/
def lookup (registry : Registry) (triple : String) : Option Handle :=
  let arch := archOf triple
  if arch = .unknown then none
  else (registry.backends.find? (·.arch = arch)).map fun b => ⟨b.name, b.description, triple⟩

/-- The backend that a handle names, if this registry has it. -/
def backend? (registry : Registry) (handle : Handle) : Option Backend :=
  registry.backends.find? (·.name = handle.name)

/-- The names and descriptions of the backends, in order. -/
def targets (registry : Registry) : List (String × String) :=
  registry.backends.map fun b => (b.name, b.description)

end Registry

end TargetConfig

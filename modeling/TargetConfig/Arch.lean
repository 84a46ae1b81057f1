import TargetConfig.Setting

/-! # Processor architectures

The architecture families that a compiler backend may generate code for, each with its label in
files, its canonical name, and its pointer width and byte order. Only `unknown` has neither.
-/

namespace TargetConfig

/-- The order of the bytes in a word. -/
inductive Endianness where
  | little
  | big
  deriving DecidableEq, Repr

instance : Enumerated Endianness where
  values := [.little, .big]
  label
    | .little => "little"
    | .big => "big"

/-- The word for a byte order in reports to people. -/
def Endianness.title : Endianness → String
  | little => "Little"
  | big => "Big"

/-- An architecture family. -/
inductive Arch where
  | unknown
  | arm | armeb
  | aarch64 | aarch64be | aarch64ilp32
  | thumb | thumbeb
  | x86 | x86_64
  | mips | mipsel | mips64 | mips64el
  | ppc | ppcle | ppc64 | ppc64le
  | riscv32 | riscv64
  | sparc | sparcel | sparcv9
  | systemz
  | wasm32 | wasm64
  | hexagon
  | bpfel | bpfeb
  | nvptx | nvptx64
  | amdgcn | r600
  | avr | msp430
  | loongarch32 | loongarch64
  deriving DecidableEq, Repr

namespace Arch

/-- Every architecture, `unknown` first. -/
def all : List Arch := [
  unknown, arm, armeb, aarch64, aarch64be, aarch64ilp32, thumb, thumbeb, x86, x86_64, mips, mipsel,
  mips64, mips64el, ppc, ppcle, ppc64, ppc64le, riscv32, riscv64, sparc, sparcel, sparcv9, systemz,
  wasm32, wasm64, hexagon, bpfel, bpfeb, nvptx, nvptx64, amdgcn, r600, avr, msp430, loongarch32,
  loongarch64]

/-- The canonical name, which need not be a spelling that triples use most. -/
def name : Arch → String
  | unknown => "unknown"
  | arm => "arm"
  | armeb => "armeb"
  | aarch64 => "aarch64"
  | aarch64be => "aarch64_be"
  | aarch64ilp32 => "aarch64_32"
  | thumb => "thumb"
  | thumbeb => "thumbeb"
  | x86 => "i386"
  | x86_64 => "x86_64"
  | mips => "mips"
  | mipsel => "mipsel"
  | mips64 => "mips64"
  | mips64el => "mips64el"
  | ppc => "powerpc"
  | ppcle => "powerpcle"
  | ppc64 => "powerpc64"
  | ppc64le => "powerpc64le"
  | riscv32 => "riscv32"
  | riscv64 => "riscv64"
  | sparc => "sparc"
  | sparcel => "sparcel"
  | sparcv9 => "sparcv9"
  | systemz => "s390x"
  | wasm32 => "wasm32"
  | wasm64 => "wasm64"
  | hexagon => "hexagon"
  | bpfel => "bpfel"
  | bpfeb => "bpfeb"
  | nvptx => "nvptx"
  | nvptx64 => "nvptx64"
  | amdgcn => "amdgcn"
  | r600 => "r600"
  | avr => "avr"
  | msp430 => "msp430"
  | loongarch32 => "loongarch32"
  | loongarch64 => "loongarch64"

/-- The label in files: lower-case words joined by hyphens. -/
def label : Arch → String
  | aarch64be => "aarch64-be"
  | aarch64ilp32 => "aarch64-32"
  | x86 => "x86"
  | x86_64 => "x86-64"
  | ppc => "ppc"
  | ppcle => "ppcle"
  | ppc64 => "ppc64"
  | ppc64le => "ppc64le"
  | systemz => "system-z"
  | arch => arch.name

/-- The width of a pointer in bits. -/
def pointerWidth : Arch → Option Nat
  | unknown => none
  | avr | msp430 => some 16
  | arm | armeb | aarch64ilp32 | thumb | thumbeb | x86 | mips | mipsel | ppc | ppcle | riscv32
  | sparc | sparcel | wasm32 | hexagon | nvptx | r600 | loongarch32 => some 32
  | aarch64 | aarch64be | x86_64 | mips64 | mips64el | ppc64 | ppc64le | riscv64 | sparcv9 | systemz
  | wasm64 | bpfel | bpfeb | nvptx64 | amdgcn | loongarch64 => some 64

def endianness : Arch → Option Endianness
  | unknown => none
  | armeb | aarch64be | thumbeb | mips | mips64 | ppc | ppc64 | sparc | sparcv9 | systemz | bpfeb =>
    some .big
  | _ => some .little

/-- Whether this is one of the four 32-bit ARM and Thumb families. -/
def isArm : Arch → Bool
  | arm | armeb | thumb | thumbeb => true
  | _ => false

end Arch

instance : Enumerated Arch where
  values := Arch.all
  label := Arch.label

/-! ## Settings that architectures prefer

What a configuration gets where a setting was left open. The rule goes by the family alone: the
32-bit ARM and Thumb families get two features, whatever the version of the architecture, and
32-bit MIPS gets static relocation. -/

/-- The settings that an architecture prefers. -/
structure Preferences where
  /-- Used where no features are set. -/
  features : List String
  /-- Used where the relocation model is the default one. -/
  relocationModel : Option RelocationModel
  deriving DecidableEq, Repr

/-- Whether there is nothing to fill in. -/
def Preferences.isEmpty (preferences : Preferences) : Bool :=
  preferences.features.isEmpty && preferences.relocationModel.isNone

/-- The settings that a family prefers. Most families have no preference. -/
def Arch.preferences : Arch → Preferences
  | arm | armeb | thumb | thumbeb => ⟨["+vfp3", "+neon"], none⟩
  | mips | mipsel => ⟨[], some .static⟩
  | _ => ⟨[], none⟩

end TargetConfig

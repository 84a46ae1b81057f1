import TargetConfig.Arch

/-! # Spellings of architectures in triples

Most families have a fixed list of spellings. The ARM families also have versioned spellings:
`arm` or `thumb`, then an optional `eb`, then an optional version, which is `v` and a digit and
anything after them; `eb` at the very end means the same as `eb` in front of the version. A text
that is none of these is the unknown architecture.
-/

namespace TargetConfig.Arch

/-- The fixed spellings of a family. -/
def spellings : Arch → List String
  | x86 => ["i386", "i486", "i586", "i686", "i786", "i886", "i986", "x86"]
  | x86_64 => ["amd64", "x86_64", "x86_64h"]
  | aarch64 => ["aarch64", "arm64", "arm64e"]
  | aarch64be => ["aarch64_be"]
  | aarch64ilp32 => ["aarch64_32", "arm64_32"]
  | arm => ["xscale"]
  | armeb => ["xscaleeb"]
  | mips => ["mips", "mipseb", "mipsallegrex", "mipsisa32r6", "mipsr6"]
  | mipsel => ["mipsel", "mipsallegrexel", "mipsisa32r6el", "mipsr6el"]
  | mips64 => ["mips64", "mips64eb", "mipsn32", "mipsisa64r6", "mips64r6", "mipsn32r6"]
  | mips64el => ["mips64el", "mipsn32el", "mipsisa64r6el", "mips64r6el", "mipsn32r6el"]
  | ppc => ["powerpc", "ppc", "ppc32"]
  | ppcle => ["powerpcle", "ppcle", "ppc32le"]
  | ppc64 => ["powerpc64", "ppu", "ppc64"]
  | ppc64le => ["powerpc64le", "ppc64le"]
  | riscv32 => ["riscv32"]
  | riscv64 => ["riscv64"]
  | sparc => ["sparc"]
  | sparcel => ["sparcel"]
  | sparcv9 => ["sparcv9", "sparc64"]
  | systemz => ["s390x", "systemz"]
  | wasm32 => ["wasm32"]
  | wasm64 => ["wasm64"]
  | hexagon => ["hexagon"]
  | bpfel => ["bpf", "bpfel"]
  | bpfeb => ["bpfeb"]
  | nvptx => ["nvptx"]
  | nvptx64 => ["nvptx64"]
  | amdgcn => ["amdgcn"]
  | r600 => ["r600"]
  | avr => ["avr"]
  | msp430 => ["msp430"]
  | loongarch32 => ["loongarch32"]
  | loongarch64 => ["loongarch64"]
  | unknown | thumb | thumbeb => []

/-- The family that has the text among its fixed spellings. -/
def ofFixedSpelling? (s : List Char) : Option Arch :=
  all.find? fun arch => arch.spellings.contains (String.ofList s)

/-- Whether the text is a version: nothing, or `v`, a digit and anything. -/
def isVersion : List Char → Bool
  | [] => true
  | 'v' :: d :: _ => d.isDigit
  | _ => false

/-- Takes the mark of big-endian order from the front, or else from the end, and tells whether there
was one. -/
def takeBigEndian (s : List Char) : Bool × List Char :=
  if ['e', 'b'].isPrefixOf s then (true, s.drop 2)
  else if ['e', 'b'].isSuffixOf s then (true, s.take (s.length - 2))
  else (false, s)

/-- The family of a versioned spelling, given what follows `arm` or `thumb`. -/
def ofVersion (little big : Arch) (s : List Char) : Arch :=
  let (isBig, version) := takeBigEndian s
  if isVersion version then if isBig then big else little else unknown

/-- The family of a versioned ARM spelling. -/
def ofArmSpelling : List Char → Arch
  | 't' :: 'h' :: 'u' :: 'm' :: 'b' :: s => ofVersion thumb thumbeb s
  | 'a' :: 'r' :: 'm' :: s => ofVersion arm armeb s
  | _ => unknown

def ofSpelling (s : List Char) : Arch := (ofFixedSpelling? s).getD (ofArmSpelling s)

end TargetConfig.Arch

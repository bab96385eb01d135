import ShellInit.Tag

/-!
# Platforms

Operating systems and processor architectures that a configuration can name. A host that it cannot
name has the axis unknown.
-/

namespace ShellInit

/-- Operating systems; a Linux inside the Windows subsystem counts as one of its own. -/
inductive Os
  | darwin
  | linux
  | windows
  | freebsd
  | netbsd
  | aix
  | solaris
  | illumos
  | wsl
deriving DecidableEq, Repr

inductive Arch
  | x64
  | arm64
deriving DecidableEq, Repr

instance : Tagged Os where
  all := [.darwin, .linux, .windows, .freebsd, .netbsd, .aix, .solaris, .illumos, .wsl]
  tag
    | .darwin => "darwin"
    | .linux => "linux"
    | .windows => "windows"
    | .freebsd => "freebsd"
    | .netbsd => "netbsd"
    | .aix => "aix"
    | .solaris => "solaris"
    | .illumos => "illumos"
    | .wsl => "wsl"

instance : Tagged Arch where
  all := [.x64, .arm64]
  tag
    | .x64 => "x86_64"
    | .arm64 => "aarch64"

/-- The operating system that a build target's name stands for. -/
def Os.ofTarget? (name : String) : Option Os :=
  if name = "macos" then some .darwin
  else (ofTag? name).filter fun os ↦ os ≠ .darwin ∧ os ≠ .wsl

/-- The architecture that a build target's name stands for. -/
def Arch.ofTarget? (name : String) : Option Arch := ofTag? name

/-- What a configuration can know of a machine; `none` is an unknown axis. -/
structure Platform where
  os : Option Os
  arch : Option Arch
deriving DecidableEq, Repr

namespace Platform

def text (p : Platform) : String :=
  (p.os.map tag).getD "unknown" ++ "/" ++ (p.arch.map tag).getD "unknown"

/-- Variables that the Windows subsystem sets in every session. -/
def subsystemVariables : List String := ["WSL_DISTRO_NAME", "WSL_INTEROP"]

structure Signs where
  /-- Build target name of the operating system. -/
  os : String
  /-- Build target name of the architecture. -/
  arch : String
  /-- Names of the environment variables that are set, if only to an empty text. -/
  exported : List String := []
  /-- Release text of the kernel. -/
  kernelRelease : Option String := none

def holds (s part : List Char) : Bool :=
  match s with
  | [] => part.isEmpty
  | _ :: rest => part.isPrefixOf s || holds rest part

def Signs.inSubsystem (signs : Signs) : Bool :=
  subsystemVariables.any (signs.exported.contains ·) ||
    signs.kernelRelease.any fun release ↦
      holds (release.toList.map Char.toLower) "microsoft".toList

def ofSigns (signs : Signs) : Platform where
  os := (Os.ofTarget? signs.os).map fun os ↦
    if os = .linux && signs.inSubsystem then .wsl else os
  arch := Arch.ofTarget? signs.arch

end Platform

end ShellInit

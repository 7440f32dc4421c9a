import SfcBundler.Proofs.Plugin.Parts
import SfcBundler.Proofs.Text.LineEnds

/-!
# Line ends of component files

A component file is loaded by its text: the processors change it, the executor is asked to compile
it, and the fingerprint is taken of it. Its bytes count for nothing else. So files that differ in
how their line ends are written are the same component, also where their bytes are no text.

## Main results

* `ComponentFile.load_of_widens`: the returns in front of line feeds make no difference
-/

namespace SfcBundler

namespace ComponentFile

/-- The text of a component is the same with returns in front of its line feeds. -/
theorem decodeSource_of_widens {bytes wide : List UInt8} (hwide : Text.Widens 0x0D 0x0A bytes wide)
    (hbytes : 0x0D ∉ bytes) : decodeSource wide = decodeSource bytes := by
  have hreturn := Utf8.return_notMem_decodeLossy hbytes
  rw [decodeSource, decodeSource,
    Text.unixLines_of_widens (Utf8.widens_decodeLossy hwide) hreturn,
    Text.unixLines_of_widens (.refl ..) hreturn]

/-- Returns in front of line feeds make no difference to a component, whatever its bytes are. Its
source is the same. A file with them and one without, loaded in places with one working directory,
make the same requests and give the same answer. -/
theorem load_of_widens {bytes wide : List UInt8} (hwide : Text.Widens 0x0D 0x0A bytes wide)
    (hbytes : 0x0D ∉ bytes) :
    decodeSource wide = decodeSource bytes ∧
    ∀ (site : Site) (args : LoadArgs) (session session' : Session),
      session.disk.readBytes args.path = .ok bytes →
      session'.disk.readBytes args.path = .ok wide →
      session'.disk.workingDir = session.disk.workingDir →
      ∃ requests answer,
        (load site.state args).run session =
          (answer, session.withRequests (session.requests ++ requests)) ∧
        (load site.state args).run session' =
          (answer, session'.withRequests (session'.requests ++ requests)) := by
  have hsource := decodeSource_of_widens hwide hbytes
  refine ⟨hsource, fun site args session session' hread hread' hdir => ?_⟩
  have hbase : session'.baseDir site.buildOptions = session.baseDir site.buildOptions := by
    rw [Session.baseDir, Session.baseDir, hdir]
  have hrun := site.componentLoad_run hread
  have hrun' := site.componentLoad_run hread'
  rw [hbase, hsource] at hrun'
  exact ⟨_, _, hrun, hrun'⟩

/-- The place in which a component file holds given bytes. -/
def holding (bytes : List UInt8) : Session where
  disk := { Site.gallery.disk with readBytes := fun _ => .ok bytes }

/-- Two lines, each of which ends inside of a character. -/
def cutLines : List UInt8 := [0x61, 0xE2, 0x82, 0x0A, 0xF0, 0x9F, 0x0A]

/-- The two lines with a return behind the first one. -/
def cutLinesWide : List UInt8 := [0x61, 0xE2, 0x82, 0x0D, 0x0A, 0xF0, 0x9F, 0x0A]

/-- Each line keeps the one malformed unit at its end. -/
theorem load_of_widens_cutLines :
    Text.Widens 0x0D 0x0A cutLines cutLinesWide ∧ 0x0D ∉ cutLines ∧
    decodeSource cutLinesWide = "a\ufffd\n\ufffd\n" ∧
    ∃ requests answer, requests.length = 1 ∧
      (load Site.gallery.state { path := "/a.vue" }).run (holding cutLines) =
        (answer, (holding cutLines).withRequests requests) ∧
      (load Site.gallery.state { path := "/a.vue" }).run (holding cutLinesWide) =
        (answer, (holding cutLinesWide).withRequests requests) := by
  have hwide : Text.Widens 0x0D 0x0A cutLines cutLinesWide :=
    .keep _ (.keep _ (.keep _ (.widen (.keep _ (.keep _ (.keep _ .nil))))))
  have hbytes : 0x0D ∉ cutLines := by decide
  obtain ⟨hsource, hload⟩ := load_of_widens hwide hbytes
  obtain ⟨requests, answer, hrun, hrun'⟩ := hload Site.gallery { path := "/a.vue" }
    (holding cutLines) (holding cutLinesWide) rfl rfl rfl
  have hcount := congrArg (fun pair => pair.2.requests.length) hrun
  exact ⟨hwide, hbytes, hsource.trans (by decide +kernel), requests, answer,
    hcount.symm.trans (by decide +kernel), hrun, hrun'⟩

end ComponentFile

end SfcBundler

/-
Coordination.Analysis.Kind — the kinds of analyses.

What the parameters of a kind mean is up to the engine that runs the job;
here a kind is only a name.
-/
import Coordination.Json.Record

namespace Coordination.Analysis

inductive Kind where
  | applyRoi
  | applyDiskMask
  | applyRingMask
  | applyPointSelector
  | centerOfMass
  | sumFrames
  | sdFrames
  | sumSig
  | pickFrame
  | pickFftFrame
  | fftSumFrames
  | radialFourier
  | fem
  | clust
  deriving DecidableEq, Repr

namespace Kind

def name : Kind → String
  | applyRoi => "APPLY_ROI"
  | applyDiskMask => "APPLY_DISK_MASK"
  | applyRingMask => "APPLY_RING_MASK"
  | applyPointSelector => "APPLY_POINT_SELECTOR"
  | centerOfMass => "CENTER_OF_MASS"
  | sumFrames => "SUM_FRAMES"
  | sdFrames => "SD_FRAMES"
  | sumSig => "SUM_SIG"
  | pickFrame => "PICK_FRAME"
  | pickFftFrame => "PICK_FFT_FRAME"
  | fftSumFrames => "FFTSUM_FRAMES"
  | radialFourier => "RADIAL_FOURIER"
  | fem => "FEM"
  | clust => "CLUST"

def ofName? : String → Option Kind
  | "APPLY_ROI" => some applyRoi
  | "APPLY_DISK_MASK" => some applyDiskMask
  | "APPLY_RING_MASK" => some applyRingMask
  | "APPLY_POINT_SELECTOR" => some applyPointSelector
  | "CENTER_OF_MASS" => some centerOfMass
  | "SUM_FRAMES" => some sumFrames
  | "SD_FRAMES" => some sdFrames
  | "SUM_SIG" => some sumSig
  | "PICK_FRAME" => some pickFrame
  | "PICK_FFT_FRAME" => some pickFftFrame
  | "FFTSUM_FRAMES" => some fftSumFrames
  | "RADIAL_FOURIER" => some radialFourier
  | "FEM" => some fem
  | "CLUST" => some clust
  | _ => none

def toJson (kind : Kind) : Json := .str kind.name

def ofJson? (place : Json.Place) (json : Json) : Option Kind :=
  (Json.word? place json).bind ofName?

/-- Whether the result is one frame. All other results have one value per scan position. -/
def givesFrame : Kind → Bool
  | sumFrames | sdFrames | pickFrame | pickFftFrame | fftSumFrames => true
  | _ => false

end Kind

end Coordination.Analysis

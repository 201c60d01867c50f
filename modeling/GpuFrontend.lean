import GpuFrontend.Binary.Round
import GpuFrontend.Command
import GpuFrontend.CommandList
import GpuFrontend.CommandList.Replay
import GpuFrontend.ConstantBuffer
import GpuFrontend.Decimal.Shortest
import GpuFrontend.Descriptor
import GpuFrontend.Device
import GpuFrontend.Device.Error
import GpuFrontend.Fault
import GpuFrontend.Fingerprint
import GpuFrontend.Format
import GpuFrontend.Graph
import GpuFrontend.Graph.Builder
import GpuFrontend.Graph.Pass
import GpuFrontend.Graph.Resource
import GpuFrontend.Handle
import GpuFrontend.Hash.Xxh64
import GpuFrontend.Image
import GpuFrontend.Path
import GpuFrontend.Proofs.ArrayLoad
import GpuFrontend.Proofs.DataTextures
import GpuFrontend.Proofs.DebugNames
import GpuFrontend.Proofs.Declarations
import GpuFrontend.Proofs.Dedup
import GpuFrontend.Proofs.Device
import GpuFrontend.Proofs.Failure
import GpuFrontend.Proofs.Frames
import GpuFrontend.Proofs.Growth
import GpuFrontend.Proofs.Lifecycle
import GpuFrontend.Proofs.Markers
import GpuFrontend.Proofs.ObjectIds
import GpuFrontend.Proofs.Operations
import GpuFrontend.Proofs.Reachable
import GpuFrontend.Proofs.RecordChecks
import GpuFrontend.Proofs.Registry
import GpuFrontend.Proofs.RegistryList
import GpuFrontend.Proofs.Render
import GpuFrontend.Proofs.Replay
import GpuFrontend.Proofs.Session
import GpuFrontend.Proofs.SingleUse
import GpuFrontend.Proofs.TextureInvariant
import GpuFrontend.Proofs.Textures
import GpuFrontend.Raster
import GpuFrontend.Registry
import GpuFrontend.Renderer
import GpuFrontend.ResourceError
import GpuFrontend.Resources
import GpuFrontend.Session.Registry
import GpuFrontend.Session.Renderer
import GpuFrontend.Session.Run
import GpuFrontend.Single
import GpuFrontend.Text.DebugName
import GpuFrontend.Text.Quoted
import GpuFrontend.Text.Utf8

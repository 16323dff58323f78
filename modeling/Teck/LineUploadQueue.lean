import Teck.Dawn.UploadRefinement
import Teck.LineUpload

namespace Teck

open Dawn

/-!
# The renderer's uploads on the queue

`Init` writes the line buffers once and every `Render` writes the uniforms and
submits one command buffer.  On the queue these writes are staged and executed
later; the frames drawn are nevertheless those of `LineBuffers`, one by one.

The calls made so far may end anywhere, inside setup or inside a frame.
-/

/-- The buffers of `tkRenderer` that the queue writes to. -/
inductive LineTarget where
  | mLineVertexBuffer
  | mLineIndexBuffer
  | wMVPUniformsBuffer
  deriving DecidableEq, Repr

namespace LineBuffers

/-- The buffer that a call names. -/
def target (state : LineBuffers) : LineTarget → GpuBuffer
  | .mLineVertexBuffer => state.mLineVertexBuffer
  | .mLineIndexBuffer => state.mLineIndexBuffer
  | .wMVPUniformsBuffer => state.wMVPUniformsBuffer

/-- The buffers as the three setup functions create them. -/
def createdBuffers (lists : LineLists) : LineTarget → GpuBuffer
  | .mLineVertexBuffer => createBuffer (lineVertexDescriptor lists)
  | .mLineIndexBuffer => createBuffer (lineIndexDescriptor lists)
  | .wMVPUniformsBuffer => createBuffer mvpUniformsDescriptor

/-- The queue calls of the setup functions, in their order. -/
def setupCalls
    (lists : LineLists)
    (memory : RawMemory) : List (QueueCall LineTarget) :=
  let vertexSize := (lineVertexDescriptor lists).size
  let indexSize := (lineIndexDescriptor lists).size
  ((List.range 4).map fun i =>
      .write .mLineVertexBuffer (i * vertexSize)
        (bytesAt memory.verticesData vertexSize)) ++
    [.write .mLineIndexBuffer 0 (bytesAt memory.indicesData indexSize)]

/-- The queue calls of one frame. -/
def frameCalls (memory : RawMemory) : List (QueueCall LineTarget) :=
  [ .write .wMVPUniformsBuffer 0
      (bytesAt memory.mvpUniforms sizeofMVPUniforms),
    .commandBuffer ]

/-- What each of some frames is drawn from, without any delay. -/
def drawnFrames (state : LineBuffers) :
    List RawMemory → List (LineTarget → GpuBuffer)
  | [] => []
  | memory :: rest =>
      (state.render memory).target ::
        drawnFrames (state.render memory) rest

/-- Executed at once, the setup calls leave what the setup functions leave. -/
theorem foldl_perform_setupCalls
    (lists : LineLists)
    (memory : RawMemory) :
    (setupCalls lists memory).foldl DeviceMemory.perform
        { buffers := createdBuffers lists, drawn := [] } =
      { buffers := (setup lists memory).target, drawn := [] } := by
  have buffers :
      ((setupCalls lists memory).foldl DeviceMemory.perform
          { buffers := createdBuffers lists, drawn := [] }).buffers =
        (setup lists memory).target := by
    funext target
    cases target <;>
      simp [setupCalls, List.range_succ, DeviceMemory.perform, setup,
        LineBuffers.target, setupMVPUniformsBuffer, setupLineIndexBuffer,
        setupLineVertexBuffer, writeVertexBuffer, createdBuffers, unset]
  rw [← buffers]
  rfl

/-- Executed at once, a frame's calls draw what `Render` draws. -/
theorem foldl_perform_frameCalls
    (memory : RawMemory)
    (state : LineBuffers)
    (drawn : List (LineTarget → GpuBuffer)) :
    (frameCalls memory).foldl DeviceMemory.perform
        { buffers := state.target, drawn := drawn } =
      { buffers := (state.render memory).target
        drawn := drawn ++ [(state.render memory).target] } := by
  have buffers :
      Function.update state.target .wMVPUniformsBuffer
          (writeBuffer state.wMVPUniformsBuffer 0
            (bytesAt memory.mvpUniforms sizeofMVPUniforms)) =
        (state.render memory).target := by
    funext target
    cases target <;> simp [LineBuffers.target, render]
  rw [← buffers]
  rfl

/-- Executed at once, the frames are drawn one after the other. -/
theorem foldl_perform_frames
    (frames : List RawMemory)
    (state : LineBuffers)
    (drawn : List (LineTarget → GpuBuffer)) :
    ((frames.flatMap frameCalls).foldl DeviceMemory.perform
        { buffers := state.target, drawn := drawn }).drawn =
      drawn ++ drawnFrames state frames := by
  induction frames generalizing state drawn with
  | nil =>
      simp [drawnFrames]
  | cons memory rest inductionHypothesis =>
      rw [List.flatMap_cons, List.foldl_append, foldl_perform_frameCalls,
        inductionHypothesis, drawnFrames, List.append_assoc,
        List.singleton_append]

/-- What setup leaves in the buffers that no frame writes. -/
structure KeepsGeometry
    (memory : RawMemory)
    (state : LineBuffers) : Prop where
  vertices :
    state.mLineVertexBuffer.memory.bytes = bytesAt memory.verticesData 80
  indices :
    state.mLineIndexBuffer.memory.bytes = bytesAt memory.indicesData 8
  uniforms :
    state.wMVPUniformsBuffer.usage.copyDst = true ∧
      state.wMVPUniformsBuffer.memory.size = sizeofMVPUniforms

/-- After the setup the buffers hold what they keep. -/
theorem keepsGeometry_setup
    (lists : LineLists)
    (memory : RawMemory) :
    KeepsGeometry memory (setup lists memory) where
  vertices := vertexBytes_setup lists memory
  indices := by
    have valid :
        ValidWriteBuffer (createBuffer (lineIndexDescriptor lists)) 0
          (bytesAt memory.indicesData 8).length := by
      rw [length_bytesAt]
      exact ⟨rfl, rfl, Nat.le_refl 8, rfl⟩
    have written :
        (writeBuffer (createBuffer (lineIndexDescriptor lists)) 0
            (bytesAt memory.indicesData 8)).memory.bytes =
          bytesAt memory.indicesData 8 := by
      rw [writeBuffer, if_pos valid]
      exact ByteBuffer.bytes_write_whole (length_bytesAt _ _)
    have size : (lineIndexDescriptor lists).size = 8 := rfl
    simpa [setup, setupLineVertexBuffer_eq, setupLineIndexBuffer,
      setupMVPUniformsBuffer, unset, size] using written
  uniforms := ⟨rfl, rfl⟩

/-- A frame overwrites the uniforms and nothing else. -/
theorem KeepsGeometry.render
    {memory : RawMemory}
    {state : LineBuffers}
    (keeps : KeepsGeometry memory state)
    (frame : RawMemory) :
    KeepsGeometry memory (state.render frame) ∧
      (state.render frame).wMVPUniformsBuffer.memory.bytes =
        bytesAt frame.mvpUniforms sizeofMVPUniforms := by
  have valid :
      ValidWriteBuffer state.wMVPUniformsBuffer 0
        (bytesAt frame.mvpUniforms sizeofMVPUniforms).length := by
    rw [length_bytesAt]
    refine ⟨rfl, rfl, ?_, keeps.uniforms.1⟩
    rw [ByteBuffer.Fits, keeps.uniforms.2, Nat.zero_add]
  refine ⟨⟨keeps.vertices, keeps.indices, ?_⟩, ?_⟩
  · simpa [LineBuffers.render] using keeps.uniforms
  · simp only [LineBuffers.render, writeBuffer, if_pos valid]
    apply ByteBuffer.bytes_write_whole
    rw [length_bytesAt, keeps.uniforms.2]

/-- The contents a frame is to be drawn from. -/
structure DrawsFrame
    (memory frame : RawMemory)
    (snapshot : LineTarget → GpuBuffer) : Prop where
  vertices :
    (snapshot .mLineVertexBuffer).memory.bytes =
      bytesAt memory.verticesData 80
  indices :
    (snapshot .mLineIndexBuffer).memory.bytes =
      bytesAt memory.indicesData 8
  uniforms :
    (snapshot .wMVPUniformsBuffer).memory.bytes =
      bytesAt frame.mvpUniforms sizeofMVPUniforms

/-- Each drawn frame is the one that was asked for. -/
theorem forall₂_drawnFrames
    {memory : RawMemory}
    {frames : List RawMemory}
    {state : LineBuffers}
    (keeps : KeepsGeometry memory state) :
    List.Forall₂ (DrawsFrame memory) frames
      (drawnFrames state frames) := by
  induction frames generalizing state with
  | nil =>
      exact .nil
  | cons frame rest inductionHypothesis =>
      obtain ⟨kept, uniforms⟩ := keeps.render frame
      exact .cons ⟨kept.vertices, kept.indices, uniforms⟩
        (inductionHypothesis kept)

/-- The buffers are small enough for sizes of 64 bits. -/
theorem size_createdBuffers_lt
    (lists : LineLists)
    (target : LineTarget) :
    (createdBuffers lists target).memory.size + 4 ≤ 2 ^ 64 := by
  cases target with
  | mLineVertexBuffer =>
      have size : (lineVertexDescriptor lists).size = 80 := rfl
      simp [createdBuffers, size]
  | mLineIndexBuffer =>
      have size : (lineIndexDescriptor lists).size = 8 := rfl
      simp [createdBuffers, size]
  | wMVPUniformsBuffer =>
      simp [createdBuffers, mvpUniformsDescriptor, sizeofMVPUniforms]

/-- The drawn frames of setup and rendering, performed at once. -/
theorem drawn_foldl_perform_calls
    (lists : LineLists)
    (memory : RawMemory)
    (frames : List RawMemory) :
    ((setupCalls lists memory ++ frames.flatMap frameCalls).foldl
        DeviceMemory.perform
        { buffers := createdBuffers lists, drawn := [] }).drawn =
      drawnFrames (setup lists memory) frames := by
  rw [List.foldl_append, foldl_perform_setupCalls, foldl_perform_frames,
    List.nil_append]

end LineBuffers

section Drawn

variable {Target : Type*} [DecidableEq Target]

/-- Nothing that was drawn is taken back. -/
theorem drawn_prefix_perform
    (calls : List (QueueCall Target))
    (memory : DeviceMemory Target) :
    memory.drawn <+: (calls.foldl DeviceMemory.perform memory).drawn := by
  induction calls generalizing memory with
  | nil =>
      exact List.prefix_rfl
  | cons call rest inductionHypothesis =>
      refine List.IsPrefix.trans ?_ (inductionHypothesis _)
      cases call with
      | write target bufferOffset data =>
          exact List.prefix_rfl
      | commandBuffer =>
          exact List.prefix_append _ _

/-- How many of some calls are command buffers. -/
def commandBufferCount : List (QueueCall Target) → Nat
  | [] => 0
  | .write _ _ _ :: rest => commandBufferCount rest
  | .commandBuffer :: rest => commandBufferCount rest + 1

/-- As many draws are made as command buffers are given. -/
theorem length_drawn_foldl_perform
    (calls : List (QueueCall Target))
    (memory : DeviceMemory Target) :
    (calls.foldl DeviceMemory.perform memory).drawn.length =
      memory.drawn.length + commandBufferCount calls := by
  induction calls generalizing memory with
  | nil =>
      rfl
  | cons call rest inductionHypothesis =>
      rw [List.foldl_cons, inductionHypothesis]
      cases call with
      | write target bufferOffset data =>
          rfl
      | commandBuffer =>
          simp only [DeviceMemory.perform, commandBufferCount,
            List.length_append, List.length_singleton]
          omega

end Drawn

namespace LineBuffers

open Dawn.UploadQueue (Label)

variable {lists : LineLists} {memory : RawMemory}
variable {frames : List RawMemory}
variable {labels : List (Label LineTarget)}
variable {final : UploadQueue LineTarget}

/-- What a prefix of the calls of setup and rendering draws. -/
theorem forall₂_drawn_of_prefix
    {done : List (QueueCall LineTarget)}
    (front :
      done <+: setupCalls lists memory ++ frames.flatMap frameCalls) :
    List.Forall₂ (DrawsFrame memory)
      (frames.take (commandBufferCount done))
      (done.foldl DeviceMemory.perform
        { buffers := createdBuffers lists, drawn := [] }).drawn := by
  obtain ⟨due, split⟩ := front
  have drawnFront :
      (done.foldl DeviceMemory.perform
          { buffers := createdBuffers lists, drawn := [] }).drawn <+:
        drawnFrames (setup lists memory) frames := by
    rw [← drawn_foldl_perform_calls, ← split, List.foldl_append]
    exact drawn_prefix_perform due _
  have length :
      (done.foldl DeviceMemory.perform
          { buffers := createdBuffers lists, drawn := [] }).drawn.length =
        commandBufferCount done := by
    rw [length_drawn_foldl_perform, List.length_nil, Nat.zero_add]
  have draws :
      List.Forall₂ (DrawsFrame memory) frames
        (drawnFrames (setup lists memory) frames) :=
    forall₂_drawnFrames (keepsGeometry_setup lists memory)
  rw [List.prefix_iff_eq_take.mp drawnFront, length]
  exact List.forall₂_take _ draws

/--
Whenever the GPU executes what it was handed, each frame drawn so far reads
the vertices and indices of setup and the uniforms of that frame, although
every frame writes its uniforms to the same buffer.  The renderer may be
anywhere in its calls, and the device may have been lost meanwhile.
-/
theorem frames_drawn_in_order
    (calls :
      labels.flatMap Label.calls <+:
        setupCalls lists memory ++ frames.flatMap frameCalls)
    (ran :
      Runs.run? UploadQueue.step?
          (UploadQueue.new (createdBuffers lists)) labels =
        some final) :
    ∃ drawnFrames,
      drawnFrames <+: frames ∧
        List.Forall₂ (DrawsFrame memory) drawnFrames
          final.memory.drawn := by
  obtain ⟨done, front, reached⟩ :=
    UploadQueue.memory_refines_immediate (size_createdBuffers_lt lists)
      ran
  refine ⟨_, List.take_prefix (commandBufferCount done) frames, ?_⟩
  rw [reached]
  exact forall₂_drawn_of_prefix (front.trans calls)

/-- Memory whose bytes are all the same. -/
def constantMemory (byte : UInt8) : RawMemory where
  verticesData := fun _ => byte
  indicesData := fun _ => byte
  mvpUniforms := fun _ => byte

/--
Setup and two frames, the first of which is executed in between, and the
uniforms of a third.
-/
def twoFrameLabels : List (Label LineTarget) :=
  ((setupCalls (initLists fun _ => 0) (constantMemory 1)).filterMap
      fun call =>
        match call with
        | .write target bufferOffset data =>
            some (.writeBuffer true target bufferOffset data)
        | .commandBuffer => none) ++
    [ .writeBuffer true .wMVPUniformsBuffer 0 (bytesAt (fun _ => 2) 192),
      .submitInternal 1, .tick, .executeNext, .executeNext, .executeNext,
      .writeBuffer true .wMVPUniformsBuffer 0 (bytesAt (fun _ => 3) 192),
      .executeNext, .submitInternal 1, .tick,
      .writeBuffer true .wMVPUniformsBuffer 0 (bytesAt (fun _ => 4) 192) ]

/-- The frames of `twoFrameLabels`, the last of which is not submitted. -/
def threeFrames : List RawMemory :=
  [constantMemory 2, constantMemory 3, constantMemory 4]

/-- The labels make a prefix of the calls of three frames. -/
theorem calls_twoFrameLabels :
    twoFrameLabels.flatMap Label.calls <+:
      setupCalls (initLists fun _ => 0) (constantMemory 1) ++
        threeFrames.flatMap frameCalls :=
  ⟨[.commandBuffer], rfl⟩

/-- The run of the two frames reaches its end with the device still there. -/
theorem run_twoFrameLabels :
    (Runs.run? UploadQueue.step?
        (UploadQueue.new (createdBuffers (initLists fun _ => 0)))
        twoFrameLabels).map
        (fun queue => (queue.isLost, queue.memory.drawn.length)) =
      some (false, 1) := by
  decide +kernel

/-- Two frames, of which the first has been executed. -/
theorem frames_drawn_in_order_twoFrames :
    ∃ final,
      Runs.run? UploadQueue.step?
            (UploadQueue.new (createdBuffers (initLists fun _ => 0)))
            twoFrameLabels =
          some final ∧
        final.memory.drawn.length = 1 ∧
        ∃ drawnFrames,
          drawnFrames <+: threeFrames ∧
            List.Forall₂ (DrawsFrame (constantMemory 1)) drawnFrames
              final.memory.drawn := by
  obtain ⟨final, ran, outcome⟩ :=
    Option.map_eq_some_iff.mp run_twoFrameLabels
  exact
    ⟨final, ran, (Prod.mk.inj outcome).2,
      frames_drawn_in_order calls_twoFrameLabels ran⟩

/--
As long as the device is not lost, flushing the queue and letting the GPU
finish draws every frame whose command buffer was submitted, each from the
geometry of setup and its own uniforms.
-/
theorem all_frames_drawn
    (calls :
      labels.flatMap Label.calls <+:
        setupCalls lists memory ++ frames.flatMap frameCalls)
    (ran :
      Runs.run? UploadQueue.step?
          (UploadQueue.new (createdBuffers lists)) labels =
        some final)
    (alive : final.isLost = false) :
    ∃ units idle,
      Runs.run? UploadQueue.step? final
            (.submitInternal 0 ::
              (List.replicate units .executeNext ++ [.tick])) =
          some idle ∧
        List.Forall₂ (DrawsFrame memory)
          (frames.take
            (commandBufferCount (labels.flatMap Label.calls)))
          idle.memory.drawn := by
  obtain ⟨units, idle, drained, reached, -⟩ :=
    UploadQueue.drains (size_createdBuffers_lt lists) ran alive
  refine ⟨units, idle, drained, ?_⟩
  rw [reached]
  exact forall₂_drawn_of_prefix calls

/-- Two of three frames, after submitting and waiting. -/
theorem all_frames_drawn_twoFrames :
    ∃ final,
      Runs.run? UploadQueue.step?
            (UploadQueue.new (createdBuffers (initLists fun _ => 0)))
            twoFrameLabels =
          some final ∧
        ∃ units idle,
          Runs.run? UploadQueue.step? final
                (.submitInternal 0 ::
                  (List.replicate units .executeNext ++ [.tick])) =
              some idle ∧
            List.Forall₂ (DrawsFrame (constantMemory 1))
              (threeFrames.take 2) idle.memory.drawn := by
  obtain ⟨final, ran, outcome⟩ :=
    Option.map_eq_some_iff.mp run_twoFrameLabels
  exact
    ⟨final, ran,
      all_frames_drawn calls_twoFrameLabels ran (Prod.mk.inj outcome).1⟩

end LineBuffers

end Teck

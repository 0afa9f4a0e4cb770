import ParticleShaders.Block.Library

namespace ParticleShaders.Library

def setPositionSphere : Descriptor where
  capabilities := [.rand]
  attributes := [⟨"position", .float3, true⟩]
  properties := [⟨"center", .float3, some "float3(0.0,0.0,0.0)"⟩, ⟨"radius", .float, some "1.0"⟩]
  source := [
    "float3 dir = normalize(RAND3 * 2.0 - 1.0);",
    "position = center + dir * radius * RAND;"]

def setPositionBox : Descriptor where
  capabilities := [.rand]
  attributes := [⟨"position", .float3, true⟩]
  properties := [
    ⟨"boxMin", .float3, some "float3(-0.5,-0.5,-0.5)"⟩,
    ⟨"boxMax", .float3, some "float3(0.5,0.5,0.5)"⟩]
  source := ["position = lerp(boxMin, boxMax, RAND3);"]

def setVelocityRandom : Descriptor where
  capabilities := [.rand]
  attributes := [⟨"velocity", .float3, true⟩]
  properties := [
    ⟨"velocityMin", .float3, some "float3(-1.0,0.0,-1.0)"⟩,
    ⟨"velocityMax", .float3, some "float3(1.0,2.0,1.0)"⟩]
  source := ["velocity = lerp(velocityMin, velocityMax, RAND3);"]

def setVelocityConstant : Descriptor where
  attributes := [⟨"velocity", .float3, true⟩]
  properties := [⟨"value", .float3, some "float3(0.0,1.0,0.0)"⟩]
  source := ["velocity = value;"]

def setColorConstant : Descriptor where
  attributes := [⟨"color", .float3, true⟩]
  properties := [⟨"value", .float3, some "float3(1.0,1.0,1.0)"⟩]
  source := ["color = value;"]

def setAlphaConstant : Descriptor where
  attributes := [⟨"alpha", .float, true⟩]
  properties := [⟨"value", .float, some "1.0"⟩]
  source := ["alpha = value;"]

def setSizeConstant : Descriptor where
  attributes := [⟨"size", .float2, true⟩]
  properties := [⟨"value", .float2, some "float2(0.1,0.1)"⟩]
  source := ["size = value;"]

def setLifetimeRandom : Descriptor where
  capabilities := [.rand]
  attributes := [⟨"lifetime", .float, true⟩]
  properties := [⟨"lifetimeMin", .float, some "1.0"⟩, ⟨"lifetimeMax", .float, some "2.0"⟩]
  source := ["lifetime = lerp(lifetimeMin, lifetimeMax, RAND);"]

def setAngleRandom : Descriptor where
  capabilities := [.rand]
  attributes := [⟨"angle", .float, true⟩]
  source := ["angle = RAND * 6.2831853;"]

def gravity : Descriptor where
  attributes := [⟨"velocity", .float3, true⟩]
  properties := [⟨"gravity", .float3, some "float3(0.0,-9.81,0.0)"⟩]
  source := ["velocity += gravity * deltaTime;"]

def drag : Descriptor where
  attributes := [⟨"velocity", .float3, true⟩]
  properties := [⟨"coefficient", .float, some "0.5"⟩]
  source := ["velocity *= max(0.0, 1.0 - coefficient * deltaTime);"]

def turbulence : Descriptor where
  capabilities := [.rand]
  attributes := [⟨"velocity", .float3, true⟩]
  properties := [⟨"intensity", .float, some "1.0"⟩]
  source := ["velocity += (RAND3 * 2.0 - 1.0) * intensity * deltaTime;"]

def rotate : Descriptor where
  attributes := [⟨"angle", .float, true⟩, ⟨"angularVelocity", .float, false⟩]
  source := ["angle += angularVelocity * deltaTime;"]

def colorOverLife : Descriptor where
  attributes := [⟨"color", .float3, true⟩, ⟨"age", .float, false⟩, ⟨"lifetime", .float, false⟩]
  properties := [⟨"gradient", .colorGradient, none⟩]
  source := ["color = SAMPLE(gradient, age / lifetime).rgb;"]

def alphaOverLife : Descriptor where
  attributes := [⟨"alpha", .float, true⟩, ⟨"age", .float, false⟩, ⟨"lifetime", .float, false⟩]
  properties := [⟨"curve", .curve, none⟩]
  source := ["alpha = SAMPLE(curve, age / lifetime);"]

def colorFromTexture : Descriptor where
  attributes := [⟨"color", .float3, true⟩, ⟨"position", .float3, false⟩]
  properties := [⟨"colorMap", .texture2D, none⟩, ⟨"scale", .float, some "1.0"⟩]
  source := ["color = tex2Dlod(colorMap, float4(frac(position.xz * scale), 0.0, 0.0)).rgb;"]

def killAge : Descriptor where
  capabilities := [.kill]
  attributes := [⟨"age", .float, false⟩, ⟨"lifetime", .float, false⟩]
  source := ["if (age >= lifetime) KILL;"]

def killPlane : Descriptor where
  capabilities := [.kill]
  attributes := [⟨"position", .float3, false⟩]
  properties := [⟨"normal", .float3, some "float3(0.0,1.0,0.0)"⟩, ⟨"offset", .float, some "0.0"⟩]
  source := ["if (dot(position, normal) < offset) KILL;"]

def outputTint : Descriptor where
  attributes := [⟨"color", .float3, true⟩]
  properties := [⟨"tint", .float3, some "float3(1.0,1.0,1.0)"⟩]
  source := ["color *= tint;"]

def outputFadeAlpha : Descriptor where
  attributes := [⟨"alpha", .float, true⟩]
  properties := [⟨"fade", .float, some "1.0"⟩]
  source := ["alpha *= fade;"]

def standard : Library := .ofList [
  ("SetPositionSphere", setPositionSphere),
  ("SetPositionBox", setPositionBox),
  ("SetVelocityRandom", setVelocityRandom),
  ("SetVelocityConstant", setVelocityConstant),
  ("SetColorConstant", setColorConstant),
  ("SetAlphaConstant", setAlphaConstant),
  ("SetSizeConstant", setSizeConstant),
  ("SetLifetimeRandom", setLifetimeRandom),
  ("SetAngleRandom", setAngleRandom),
  ("Gravity", gravity),
  ("Drag", drag),
  ("Turbulence", turbulence),
  ("Rotate", rotate),
  ("ColorOverLife", colorOverLife),
  ("AlphaOverLife", alphaOverLife),
  ("ColorFromTexture", colorFromTexture),
  ("KillAge", killAge),
  ("KillPlane", killPlane),
  ("OutputTint", outputTint),
  ("OutputFadeAlpha", outputFadeAlpha)]

end ParticleShaders.Library
